import SwitchRemake.Redis.CommandConsumer

/-!
# Commands are carried out once

The log tells what the consumer has done. Every record in it is justified by those before it, up to the
last time the reply of its command was forgotten.
-/

namespace SwitchRemake.Redis
open Lib

variable {W P R Room : Type}

/-! ## The log -/

def Record.purges (requestId : String) : Record R → Bool
  | .purged other _ => other = requestId
  | _ => false

/-- What has happened since the reply was last forgotten. -/
def recent (requestId : String) (log : List (Record R)) : List (Record R) :=
  log.takeWhile fun record => !record.purges requestId

theorem mem_of_recent {requestId : String} {log : List (Record R)} {record : Record R}
    (member : record ∈ recent requestId log) : record ∈ log :=
  (List.takeWhile_sublist _).subset member

theorem mem_recent_cons {requestId : String} {log : List (Record R)} {record other : Record R} :
    record ∈ recent requestId (other :: log) ↔
      other.purges requestId = false ∧ (record = other ∨ record ∈ recent requestId log) := by
  unfold recent
  rw [List.takeWhile_cons]
  cases other.purges requestId <;> simp

section
variable (commandOf : String → ControlCommand P)

/-- The command was seen by its deadline once. -/
def InTime (log : List (Record R)) (requestId : String) : Prop :=
  ∃ clock, .seen requestId clock ∈ log ∧ clock ≤ (commandOf requestId).deadlineAt

/-- Why a record may follow those before it. -/
def Justified (past : List (Record R)) : Record R → Prop
  | .began requestId => .began requestId ∉ recent requestId past ∧ InTime commandOf past requestId
  | .sent _ requestId reply =>
    ∀ entryId other, .sent entryId requestId other ∈ recent requestId past → other = reply
  | .acknowledged entryId => ∃ before, past = .written entryId :: before
  | .purged requestId clock =>
    ∃ closed, .closed requestId closed ∈ recent requestId past ∧ closed + operationResultTtlMs ≤ clock
  | _ => True

def Sound (log : List (Record R)) : Prop :=
  ∀ newer record past, log = newer ++ record :: past → Justified commandOf past record

end

variable {commandOf : String → ControlCommand P} {log past : List (Record R)} {requestId : String}

theorem Sound.cons {record : Record R} (sound : Sound commandOf log)
    (justified : Justified commandOf log record) : Sound commandOf (record :: log) := by
  intro newer other past split
  cases newer with
  | nil =>
    obtain ⟨rfl, rfl⟩ := List.cons.inj split
    exact justified
  | cons _ newer => exact sound newer other past (List.cons.inj split).2

theorem InTime.mono (more : ∀ record ∈ past, record ∈ log)
    (inTime : InTime commandOf past requestId) : InTime commandOf log requestId := by
  obtain ⟨clock, seen, early⟩ := inTime
  exact ⟨clock, more _ seen, early⟩

theorem Sound.inTime (sound : Sound commandOf log) (began : .began requestId ∈ log) :
    InTime commandOf log requestId := by
  obtain ⟨newer, past, split⟩ := List.append_of_mem began
  have justified := sound _ _ _ split
  refine justified.2.mono ?_
  intro record member
  rw [split]
  exact List.mem_append_right _ (List.mem_cons_of_mem _ member)

/-! ## The invariant -/

/-- What the kept reply of a command tells. -/
structure Remembers (log : List (Record R)) (cached : CachedReply R) : Prop where
  sent : ∀ entryId reply, .sent entryId cached.requestId reply ∈ recent cached.requestId log →
    reply = cached.reply
  closed : ∀ expiresAt, cached.expiresAt = some expiresAt → ∃ clock,
    .closed cached.requestId clock ∈ recent cached.requestId log ∧
      expiresAt = clock + operationResultTtlMs

/-- The command has begun and will be taken up again. -/
def InHand (c : CommandConsumer W P R Room) (requestId : String) : Prop :=
  c.stagedAdoptions.has requestId = true ∨
    ∃ d, c.call = some (.deleteReplay d) ∧ d.requestId = requestId

def CallLaws (commandOf : String → ControlCommand P) (c : CommandConsumer W P R Room) :
    Call P R Room → Prop
  | .getStored d =>
    c.localOperations.get? d.requestId = none ∧ .seen d.requestId d.seenAt ∈ c.log
  | .getRejoin d _ =>
    c.localOperations.get? d.requestId = none ∧ InTime commandOf c.log d.requestId ∧
      ∃ payload, (commandOf d.requestId).body = .reserveJoin payload
  | .getHandoff d _ _ | .claimAdoptedRoom d _ _ | .reconcile d _ _ =>
    c.localOperations.get? d.requestId = none ∧ c.stagedAdoptions.has d.requestId = true
  | .deleteReplay d => c.localOperations.get? d.requestId = none
  | .setPx d reply | .xAdd d reply =>
    (c.localOperations.get? d.requestId).map CachedReply.reply = some reply
  | _ => True

structure Laws (commandOf : String → ControlCommand P) (c : CommandConsumer W P R Room) : Prop where
  sound : Sound commandOf c.log
  kept : ∀ requestId cached, c.localOperations.get? requestId = some cached →
    Remembers c.log cached
  absent : ∀ requestId, c.localOperations.get? requestId = none →
    (∀ entryId reply, .sent entryId requestId reply ∉ recent requestId c.log) ∧
      (.began requestId ∈ recent requestId c.log → InHand c requestId)
  call : ∀ call ∈ c.call, CallLaws commandOf c call
  staged : ∀ requestId, c.stagedAdoptions.has requestId = true →
    (∃ payload, (commandOf requestId).body = .adoptRoom payload) ∧ .began requestId ∈ c.log

variable {server : GameServer W P R Room} {c : CommandConsumer W P R Room} {d : Delivery}

theorem Remembers.mono {cached : CachedReply R} (remembers : Remembers past cached)
    (same : ∀ record ∈ recent cached.requestId past, record ∈ recent cached.requestId log)
    (sent : ∀ entryId reply, .sent entryId cached.requestId reply ∈ recent cached.requestId log →
      .sent entryId cached.requestId reply ∈ recent cached.requestId past) :
    Remembers log cached := by
  refine ⟨fun entryId reply member => remembers.sent _ _ (sent _ _ member), ?_⟩
  intro expiresAt expires
  obtain ⟨clock, closed, rfl⟩ := remembers.closed expiresAt expires
  exact ⟨clock, same _ closed, rfl⟩

theorem get?_requestId {cached : CachedReply R} {requestId : String}
    (found : c.localOperations.get? requestId = some cached) : cached.requestId = requestId :=
  (KeyedList.mem_of_get? found).2

/-- What may be put on top of the log when a reply is ready: nothing, or that the operation began. -/
inductive Begins (commandOf : String → ControlCommand P) (log : List (Record R))
    (requestId : String) : List (Record R) → Prop where
  | before : Begins commandOf log requestId []
  | now (fresh : .began requestId ∉ recent requestId log) (inTime : InTime commandOf log requestId) :
    Begins commandOf log requestId [.began requestId]

theorem Begins.mem {ext : List (Record R)} (begins : Begins commandOf log requestId ext)
    (other : String) (record : Record R) :
    record ∈ recent other (ext ++ log) ↔ record ∈ ext ∨ record ∈ recent other log := by
  cases begins with
  | before => simp
  | now _ _ => simp [mem_recent_cons, Record.purges]

theorem Begins.not_sent {ext : List (Record R)} (begins : Begins commandOf log requestId ext)
    {entryId other : String} {reply : ControlReply R} : .sent entryId other reply ∉ ext := by
  cases begins <;> simp

theorem Begins.sound {ext : List (Record R)} (begins : Begins commandOf log requestId ext)
    (sound : Sound commandOf log) : Sound commandOf (ext ++ log) := by
  cases begins with
  | before => exact sound
  | now fresh inTime => exact sound.cons ⟨fresh, inTime⟩

theorem Begins.began {ext : List (Record R)} (begins : Begins commandOf log requestId ext)
    {other : String} (member : .began other ∈ ext) : other = requestId := by
  cases begins with
  | before => cases member
  | now _ _ => simpa using member

/-- A reply is ready: it is kept, and the command is in hand no more. -/
theorem Laws.finish (laws : Laws commandOf c) (world : W) {ext : List (Record R)}
    {staged : KeyedList (StagedAdoption.requestId : StagedAdoption Room → String)}
    (reply : ControlReply R) (fresh : c.localOperations.get? d.requestId = none)
    (begins : Begins commandOf c.log d.requestId ext)
    (fewer : ∀ other, staged.has other = true → c.stagedAdoptions.has other = true)
    (others : ∀ other, other ≠ d.requestId → c.stagedAdoptions.has other = true →
      staged.has other = true)
    (own : ∀ d', c.call = some (.deleteReplay d') → d'.requestId = d.requestId) :
    Laws commandOf
      { world
        localOperations := c.localOperations.set ⟨d.requestId, reply, none⟩
        stagedAdoptions := staged
        call := some (.setPx d reply)
        log := ext ++ c.log } where
  sound := begins.sound laws.sound
  kept requestId cached found := by
    rw [KeyedList.get?_set] at found
    split at found
    · cases found
      refine ⟨fun entryId other member => ?_, by rintro _ ⟨⟩⟩
      rcases (begins.mem _ _).mp member with new | old
      · exact absurd new begins.not_sent
      · exact absurd old ((laws.absent _ fresh).1 entryId other)
    · refine (laws.kept requestId cached found).mono ?_ ?_
      · exact fun record member => (begins.mem _ _).mpr (.inr member)
      · intro entryId other member
        exact ((begins.mem _ _).mp member).resolve_left begins.not_sent
  absent requestId none := by
    rw [KeyedList.get?_set] at none
    split at none
    · cases none
    rename_i other
    obtain ⟨unsent, inHand⟩ := laws.absent requestId none
    refine ⟨fun entryId reply' member => ?_, fun began => ?_⟩
    · exact unsent entryId reply' (((begins.mem _ _).mp member).resolve_left begins.not_sent)
    · rcases (begins.mem _ _).mp began with new | old
      · exact absurd (begins.began new) other
      · rcases inHand old with kept | ⟨d', call, same⟩
        · exact .inl (others requestId other kept)
        · exact absurd (same ▸ own d' call) other
  call := by
    rintro _ ⟨⟩
    change (KeyedList.get? _ d.requestId).map CachedReply.reply = some reply
    rw [KeyedList.get?_set, if_pos rfl]
    rfl
  staged requestId present := by
    obtain ⟨body, began⟩ := laws.staged requestId (fewer requestId present)
    exact ⟨body, List.mem_append_right _ began⟩

/-- The call changes, and nothing is in hand by it. -/
theorem Laws.calls (laws : Laws commandOf c) {call : Option (Call P R Room)}
    (lawful : ∀ next ∈ call, CallLaws commandOf { c with call } next)
    (own : ∀ d', c.call = some (.deleteReplay d') → call = some (.deleteReplay d')) :
    Laws commandOf { c with call } where
  sound := laws.sound
  kept := laws.kept
  absent requestId none := by
    obtain ⟨unsent, inHand⟩ := laws.absent requestId none
    refine ⟨unsent, fun began => ?_⟩
    rcases inHand began with kept | ⟨d', calling, same⟩
    · exact .inl kept
    · exact .inr ⟨d', own d' calling, same⟩
  call := lawful
  staged := laws.staged

theorem Laws.fail (laws : Laws commandOf c) (own : ∀ d', c.call ≠ some (.deleteReplay d')) :
    Laws commandOf c.fail :=
  laws.calls nofun fun d' calling => absurd calling (own d')

/-- The records that say nothing of an operation or a reply. -/
def Record.Plain : Record R → Prop
  | .seen _ _ | .written _ | .acknowledged _ | .closed _ _ => True
  | _ => False

theorem mem_recent_plain {record other : Record R} (plain : other.Plain) :
    record ∈ recent requestId (other :: log) ↔ record = other ∨ record ∈ recent requestId log := by
  rw [mem_recent_cons]
  cases other <;> first | exact plain.elim | simp [Record.purges]

theorem InHand.record {record : Record R} (inHand : InHand c requestId) :
    InHand { c with log := record :: c.log } requestId := inHand

theorem CallLaws.record {record : Record R} {call : Call P R Room}
    (lawful : CallLaws commandOf c call) :
    CallLaws commandOf { c with log := record :: c.log } call := by
  cases call with
  | getStored d => exact ⟨lawful.1, List.mem_cons_of_mem _ lawful.2⟩
  | getRejoin d payload =>
    exact ⟨lawful.1, lawful.2.1.mono fun _ => List.mem_cons_of_mem _, lawful.2.2⟩
  | _ => exact lawful

theorem Laws.record (laws : Laws commandOf c) {record : Record R} (plain : record.Plain)
    (justified : Justified commandOf c.log record) :
    Laws commandOf { c with log := record :: c.log } where
  sound := laws.sound.cons justified
  kept requestId cached found := by
    refine (laws.kept requestId cached found).mono ?_ ?_
    · exact fun old member => (mem_recent_plain plain).mpr (.inr member)
    · intro entryId reply member
      rcases (mem_recent_plain plain).mp member with rfl | old
      · exact plain.elim
      · exact old
  absent requestId none := by
    obtain ⟨unsent, inHand⟩ := laws.absent requestId none
    refine ⟨fun entryId reply member => ?_, fun began => ?_⟩
    · rcases (mem_recent_plain plain).mp member with rfl | old
      · exact plain.elim
      · exact unsent entryId reply old
    · rcases (mem_recent_plain plain).mp began with rfl | old
      · exact plain.elim
      · exact (inHand old).record
  call next calling := (laws.call next calling).record
  staged requestId present := by
    obtain ⟨body, began⟩ := laws.staged requestId present
    exact ⟨body, List.mem_cons_of_mem _ began⟩

theorem Laws.acknowledge (laws : Laws commandOf c) (entryId : String) :
    Laws commandOf { c with log := .acknowledged entryId :: .written entryId :: c.log } := by
  have written : Laws commandOf { c with log := .written entryId :: c.log } :=
    laws.record trivial trivial
  exact written.record trivial ⟨_, rfl⟩

/-- A reply is sent that is kept. -/
theorem Laws.send (laws : Laws commandOf c) {reply : ControlReply R}
    (calling : c.call = some (.setPx d reply)) :
    Laws commandOf
      { c with
        call := some (.xAdd d reply)
        log := .sent d.entryId d.requestId reply :: c.log } := by
  have here := laws.call _ calling
  obtain ⟨cached, found, rfl⟩ := Option.map_eq_some_iff.mp here
  have keeps := laws.kept _ _ found
  rw [← get?_requestId found] at *
  constructor
  · exact laws.sound.cons keeps.sent
  · intro requestId other found'
    by_cases same : requestId = cached.requestId
    · rw [same, found] at found'
      cases found'
      refine ⟨fun entryId reply member => ?_, fun expiresAt expires => ?_⟩
      · rcases (mem_recent_cons.mp member).2 with new | old
        · cases new
          rfl
        · exact keeps.sent entryId reply old
      · obtain ⟨clock, closed, rfl⟩ := keeps.closed expiresAt expires
        exact ⟨clock, mem_recent_cons.mpr ⟨rfl, .inr closed⟩, rfl⟩
    · refine (laws.kept requestId other found').mono ?_ ?_
      · exact fun record member => mem_recent_cons.mpr ⟨rfl, .inr member⟩
      · intro entryId reply member
        rcases (mem_recent_cons.mp member).2 with new | old
        · rw [get?_requestId found'] at new
          exact absurd (Record.sent.inj new).2.1 same
        · exact old
  · intro requestId none
    obtain ⟨unsent, inHand⟩ := laws.absent requestId none
    refine ⟨fun entryId reply member => ?_, fun began => ?_⟩
    · rcases (mem_recent_cons.mp member).2 with new | old
      · cases new
        rw [found] at none
        cases none
      · exact unsent entryId reply old
    · rcases (mem_recent_cons.mp began).2 with new | old
      · cases new
      · rcases inHand old with kept | ⟨d', deleting, _⟩
        · exact .inl kept
        · rw [calling] at deleting
          cases deleting
  · rintro _ ⟨⟩
    exact here
  · intro requestId present
    obtain ⟨body, began⟩ := laws.staged requestId present
    exact ⟨body, List.mem_cons_of_mem _ began⟩

/-- The entry is acknowledged: from now on the reply may be forgotten in time. -/
theorem Laws.close (laws : Laws commandOf c) (now : Int) (calling : c.call = some (.xAck d)) :
    Laws commandOf
      { c with
        localOperations := c.localOperations.modify d.requestId
          (fun cached => { cached with expiresAt := some (now + operationResultTtlMs) })
          fun _ => rfl
        call := none
        log := .closed d.requestId now :: c.log } := by
  have plain : (Record.closed d.requestId now : Record R).Plain := trivial
  have logged : Laws commandOf { c with log := .closed d.requestId now :: c.log } :=
    laws.record plain trivial
  constructor
  · exact logged.sound
  · intro requestId cached found
    rw [KeyedList.get?_modify] at found
    split at found
    · rename_i same
      obtain ⟨old, before, rfl⟩ := Option.map_eq_some_iff.mp found
      have keeps := logged.kept _ _ before
      have named : old.requestId = requestId := get?_requestId before
      refine ⟨keeps.sent, ?_⟩
      rintro _ ⟨⟩
      refine ⟨now, (mem_recent_plain plain).mpr (.inl ?_), rfl⟩
      rw [← same]
      exact congrArg (fun id => Record.closed id now) named
    · exact logged.kept requestId cached found
  · intro requestId none
    rw [KeyedList.get?_modify] at none
    have absent : c.localOperations.get? requestId = Option.none := by
      split at none
      · exact Option.map_eq_none_iff.mp none
      · exact none
    obtain ⟨unsent, inHand⟩ := logged.absent requestId absent
    refine ⟨unsent, fun began => ?_⟩
    rcases inHand began with kept | ⟨d', deleting, _⟩
    · exact .inl kept
    · have deleting : c.call = _ := deleting
      rw [calling] at deleting
      cases deleting
  · rintro _ ⟨⟩
  · exact logged.staged

/-! ## Forgetting -/

theorem mem_recent_purges {now : Int} {names : List String} {record : Record R}
    (member : record ∈ recent requestId (names.map (.purged · now) ++ log)) :
    (∃ name, record = .purged name now) ∨ requestId ∉ names ∧ record ∈ recent requestId log := by
  induction names with
  | nil => exact .inr ⟨List.not_mem_nil, member⟩
  | cons name names ih =>
    obtain ⟨other, rfl | inside⟩ := mem_recent_cons.mp member
    · exact .inl ⟨name, rfl⟩
    · rcases ih inside with purge | ⟨fresh, old⟩
      · exact .inl purge
      · refine .inr ⟨?_, old⟩
        rintro (_ | ⟨_, inside⟩)
        · simp [Record.purges] at other
        · exact fresh inside

theorem recent_purges {now : Int} {names : List String} {record : Record R}
    (fresh : requestId ∉ names) (member : record ∈ recent requestId log) :
    record ∈ recent requestId (names.map (.purged · now) ++ log) := by
  induction names with
  | nil => exact member
  | cons name names ih =>
    rw [List.mem_cons, not_or] at fresh
    refine mem_recent_cons.mpr ⟨?_, .inr (ih fresh.2)⟩
    simp [Record.purges, Ne.symm fresh.1]

theorem Sound.purges {now : Int} {names : List String} (sound : Sound commandOf log)
    (distinct : names.Nodup)
    (due : ∀ name ∈ names, ∃ closed, .closed name closed ∈ recent name log ∧
      closed + operationResultTtlMs ≤ now) :
    Sound commandOf (names.map (.purged · now) ++ log) := by
  induction names with
  | nil => exact sound
  | cons name names ih =>
    obtain ⟨fresh, distinct⟩ := List.nodup_cons.mp distinct
    obtain ⟨closed, member, late⟩ := due name List.mem_cons_self
    exact (ih distinct fun other inside => due other (List.mem_cons_of_mem _ inside)).cons
      ⟨closed, recent_purges fresh member, late⟩

/-- Only replies whose time is over are forgotten. -/
theorem Laws.purge (laws : Laws commandOf c) (now : Int) (idle : c.call = none) :
    Laws commandOf (c.purge now) := by
  let names := (c.localOperations.entries.filter (CommandConsumer.expired now)).map
    CachedReply.requestId
  have log : (c.purge now).log = names.map (.purged · now) ++ c.log := by
    simp [CommandConsumer.purge, names]
  have found (requestId : String) :
      (c.purge now).localOperations.get? requestId =
        (c.localOperations.get? requestId).filter fun cached =>
          !CommandConsumer.expired now cached :=
    KeyedList.get?_filter ..
  have named {cached : CachedReply R} (present : c.localOperations.get? cached.requestId = some cached) :
      cached.requestId ∈ names ↔ CommandConsumer.expired now cached = true := by
    constructor
    · intro member
      obtain ⟨other, inside, same⟩ := List.mem_map.mp member
      obtain ⟨inside, isOver⟩ := List.mem_filter.mp inside
      have equal := KeyedList.get?_of_mem inside
      rw [same, present] at equal
      cases equal
      exact isOver
    · intro isOver
      exact List.mem_map.mpr ⟨cached, List.mem_filter.mpr
        ⟨(KeyedList.mem_of_get? present).1, isOver⟩, rfl⟩
  constructor
  · rw [log]
    apply laws.sound.purges
    · exact c.localOperations.distinct.sublist (List.filter_sublist.map _)
    · intro name member
      obtain ⟨cached, inside, rfl⟩ := List.mem_map.mp member
      obtain ⟨inside, isOver⟩ := List.mem_filter.mp inside
      unfold CommandConsumer.expired at isOver
      split at isOver
      · rename_i expiresAt expires
        obtain ⟨clock, closed, rfl⟩ :=
          (laws.kept _ _ (KeyedList.get?_of_mem inside)).closed _ expires
        exact ⟨clock, closed, of_decide_eq_true isOver⟩
      · cases isOver
  · intro requestId cached present
    rw [found, Option.filter_eq_some_iff] at present
    obtain ⟨present, alive⟩ := present
    obtain rfl := get?_requestId present
    have fresh : cached.requestId ∉ names := by
      rw [named present]
      simpa using alive
    rw [log]
    refine (laws.kept _ _ present).mono (fun record => recent_purges fresh) ?_
    intro entryId reply member
    rcases mem_recent_purges member with ⟨_, purge⟩ | ⟨_, old⟩
    · cases purge
    · exact old
  · intro requestId absent
    rw [found] at absent
    rw [log]
    have before (record : Record R) (solid : ∀ name, record ≠ .purged name now)
        (member : record ∈ recent requestId (names.map (.purged · now) ++ c.log)) :
        c.localOperations.get? requestId = none ∧ record ∈ recent requestId c.log := by
      rcases mem_recent_purges member with ⟨name, purge⟩ | ⟨fresh, old⟩
      · exact absurd purge (solid name)
      · refine ⟨?_, old⟩
        cases present : c.localOperations.get? requestId with
        | none => rfl
        | some cached =>
          obtain rfl := get?_requestId present
          rw [present, Option.filter_eq_none_iff] at absent
          have isOver := absent cached rfl
          exact absurd ((named present).mpr (by simpa using isOver)) fresh
    refine ⟨fun entryId reply member => ?_, fun began => ?_⟩
    · obtain ⟨gone, old⟩ := before (.sent entryId requestId reply) (fun _ => nofun) member
      exact (laws.absent _ gone).1 entryId reply old
    · obtain ⟨gone, old⟩ := before (.began requestId) (fun _ => nofun) began
      exact (laws.absent _ gone).2 old
  · intro call calling
    have calling : c.call = some call := calling
    rw [idle] at calling
    cases calling
  · intro requestId present
    obtain ⟨body, began⟩ := laws.staged requestId present
    refine ⟨body, ?_⟩
    rw [log]
    exact List.mem_append_right _ began

/-! ## A step -/

/-- A kept reply is given again, and stays until the entry is acknowledged. -/
theorem Laws.recall (laws : Laws commandOf c) (idle : c.call = none) {cached : CachedReply R}
    (found : c.localOperations.get? d.requestId = some cached) :
    Laws commandOf
      { c with
        localOperations := c.localOperations.set { cached with expiresAt := none }
        call := some (.setPx d cached.reply) } := by
  have named : cached.requestId = d.requestId := get?_requestId found
  constructor
  · exact laws.sound
  · intro requestId other present
    rw [KeyedList.get?_set] at present
    split at present
    · cases present
      exact ⟨(laws.kept _ _ found).sent, by rintro _ ⟨⟩⟩
    · exact laws.kept requestId other present
  · intro requestId absent
    rw [KeyedList.get?_set] at absent
    split at absent
    · cases absent
    obtain ⟨unsent, inHand⟩ := laws.absent requestId absent
    refine ⟨unsent, fun began => ?_⟩
    rcases inHand began with kept | ⟨d', deleting, _⟩
    · exact .inl kept
    · rw [idle] at deleting
      cases deleting
  · rintro _ ⟨⟩
    change (KeyedList.get? _ d.requestId).map CachedReply.reply = some cached.reply
    rw [KeyedList.get?_set, if_pos named.symm]
    rfl
  · exact laws.staged

theorem Laws.deliver (laws : Laws commandOf c) (idle : c.call = none) (entryId requestId : String)
    (now : Int) : Laws commandOf (c.deliver entryId requestId now) := by
  have seen : Laws commandOf
      { c.purge now with log := .seen requestId now :: (c.purge now).log } :=
    (laws.purge now idle).record trivial trivial
  unfold CommandConsumer.deliver
  dsimp only
  split
  · rename_i cached found
    exact seen.recall idle (d := ⟨entryId, requestId, now⟩) found
  · rename_i absent
    refine seen.calls ?_ ?_
    · rintro _ ⟨⟩
      exact ⟨absent, List.mem_cons_self⟩
    · intro d' deleting
      have deleting : c.call = _ := deleting
      rw [idle] at deleting
      cases deleting

/-- Nothing of the command stands in the log, and it is not in hand. -/
theorem Laws.begins (laws : Laws commandOf c) (fresh : c.localOperations.get? d.requestId = none)
    (inTime : InTime commandOf c.log d.requestId) (idle : ¬InHand c d.requestId) :
    Begins commandOf c.log d.requestId [.began d.requestId] :=
  .now (fun began => idle ((laws.absent _ fresh).2 began)) inTime

theorem Laws.reply (laws : Laws commandOf c) (reply : ControlReply R)
    (fresh : c.localOperations.get? d.requestId = none)
    (own : ∀ d', c.call = some (.deleteReplay d') → d'.requestId = d.requestId) :
    Laws commandOf (c.finish d reply) :=
  laws.finish c.world reply fresh .before (fun _ => id) (fun _ _ => id) own

theorem Laws.operate (laws : Laws commandOf c) (result : W × Except ControlErrorCode R)
    (fresh : c.localOperations.get? d.requestId = none)
    (inTime : InTime commandOf c.log d.requestId) (idle : ¬InHand c d.requestId)
    (own : ∀ d', c.call = some (.deleteReplay d') → d'.requestId = d.requestId) :
    Laws commandOf (c.operate server d result) :=
  laws.finish result.1 _ fresh (laws.begins fresh inTime idle) (fun _ => id) (fun _ _ => id) own

theorem Laws.leaveStaging (laws : Laws commandOf c) (world : W) (reply : ControlReply R)
    (fresh : c.localOperations.get? d.requestId = none)
    (own : ∀ d', c.call = some (.deleteReplay d') → d'.requestId = d.requestId) :
    Laws commandOf
      ({ c with world, stagedAdoptions := c.stagedAdoptions.delete d.requestId }.finish d reply) := by
  refine laws.finish world reply fresh .before ?_ ?_ own
  · intro other present
    obtain ⟨staged, member, rfl⟩ := KeyedList.has_iff.mp present
    exact KeyedList.has_iff.mpr ⟨staged, (KeyedList.mem_delete.mp member).1, rfl⟩
  · intro other differs present
    obtain ⟨staged, member, rfl⟩ := KeyedList.has_iff.mp present
    exact KeyedList.has_iff.mpr ⟨staged, KeyedList.mem_delete.mpr ⟨member, differs⟩, rfl⟩

/-- An operation has begun that a later step carries on. -/
theorem Laws.underway (laws : Laws commandOf c) (world : W) {next : Call P R Room}
    {staged : KeyedList (StagedAdoption.requestId : StagedAdoption Room → String)}
    (begins : Begins commandOf c.log d.requestId [.began d.requestId])
    (keeps : ∀ other, c.stagedAdoptions.has other = true → staged.has other = true)
    (more : ∀ other, staged.has other = true → c.stagedAdoptions.has other = true ∨
      other = d.requestId ∧ ∃ payload, (commandOf other).body = .adoptRoom payload)
    (inHand : InHand { c.began d world with stagedAdoptions := staged, call := some next } d.requestId)
    (lawful : CallLaws commandOf
      { c.began d world with stagedAdoptions := staged, call := some next } next)
    (own : ∀ d', c.call ≠ some (.deleteReplay d')) :
    Laws commandOf { c.began d world with stagedAdoptions := staged, call := some next } := by
  constructor
  · exact begins.sound laws.sound
  · intro requestId cached found
    refine (laws.kept requestId cached found).mono ?_ ?_
    · exact fun record member => (begins.mem _ _).mpr (.inr member)
    · intro entryId reply member
      exact ((begins.mem _ _).mp member).resolve_left begins.not_sent
  · intro requestId gone
    obtain ⟨unsent, before⟩ := laws.absent requestId gone
    refine ⟨fun entryId reply member => ?_, fun began => ?_⟩
    · exact unsent entryId reply (((begins.mem _ _).mp member).resolve_left begins.not_sent)
    · rcases (begins.mem _ _).mp began with new | old
      · rw [begins.began new]
        exact inHand
      · rcases before old with kept | ⟨d', deleting, _⟩
        · exact .inl (keeps requestId kept)
        · exact absurd deleting (own d')
  · rintro _ ⟨⟩
    exact lawful
  · intro requestId present
    rcases more requestId present with before | ⟨rfl, adopts⟩
    · obtain ⟨adopts, began⟩ := laws.staged requestId before
      exact ⟨adopts, List.mem_cons_of_mem _ began⟩
    · exact ⟨adopts, List.mem_cons_self⟩

theorem Laws.adoptRoom (laws : Laws commandOf c) {payload : AdoptRoomPayload P}
    (body : (commandOf d.requestId).body = .adoptRoom payload)
    (fresh : c.localOperations.get? d.requestId = none)
    (inTime : c.stagedAdoptions.has d.requestId = false → InTime commandOf c.log d.requestId)
    (own : ∀ d', c.call ≠ some (.deleteReplay d')) :
    Laws commandOf (c.adoptRoom server d payload) := by
  have mine : ∀ d', c.call = some (.deleteReplay d') → d'.requestId = d.requestId :=
    fun d' deleting => absurd deleting (own d')
  unfold CommandConsumer.adoptRoom
  split
  · exact laws.reply _ fresh mine
  split
  · exact laws.reply _ fresh mine
  split
  · exact laws.reply _ fresh mine
  split
  · rename_i staged found
    refine laws.calls ?_ fun d' deleting => absurd deleting (own d')
    rintro _ ⟨⟩
    refine ⟨fresh, ?_⟩
    rw [KeyedList.has_eq_isSome, found]
    rfl
  rename_i absent
  have unstaged : c.stagedAdoptions.has d.requestId = false := by
    rw [KeyedList.has_eq_isSome, absent]
    rfl
  have idle : ¬InHand c d.requestId := by
    rintro (staged | ⟨d', deleting, _⟩)
    · rw [unstaged] at staged
      cases staged
    · exact own d' deleting
  have begins := laws.begins fresh (inTime unstaged) idle
  split
  · rename_i world code refused
    exact laws.finish world _ fresh begins (fun _ => id) (fun _ _ => id) mine
  rename_i world room adopts
  have stages (other : String) :
      (c.stagedAdoptions.set ⟨d.requestId, room⟩).has other = true ↔
        other = d.requestId ∨ c.stagedAdoptions.has other = true := by
    rw [KeyedList.has_eq_isSome, KeyedList.get?_set, KeyedList.has_eq_isSome]
    by_cases same : other = d.requestId
    · simp [same]
    · simp [same]
  have here : (c.stagedAdoptions.set ⟨d.requestId, room⟩).has d.requestId = true :=
    (stages d.requestId).mpr (.inl rfl)
  refine laws.underway world begins ?_ ?_ (.inl here) ⟨fresh, here⟩ own
  · exact fun other before => (stages other).mpr (.inr before)
  · intro other present
    rcases (stages other).mp present with rfl | before
    · exact .inr ⟨rfl, payload, body⟩
    · exact .inl before

theorem Laws.execute (laws : Laws commandOf c) (now : Int)
    (calling : c.call = some (.getStored d))
    (inTime : c.stagedAdoptions.has d.requestId = false → InTime commandOf c.log d.requestId) :
    Laws commandOf (c.execute server commandOf d now) := by
  have fresh : c.localOperations.get? d.requestId = none := (laws.call _ calling).1
  have own : ∀ d', c.call ≠ some (.deleteReplay d') := by
    rw [calling]
    exact nofun
  have mine : ∀ d', c.call = some (.deleteReplay d') → d'.requestId = d.requestId :=
    fun d' deleting => absurd deleting (own d')
  -- a staged room belongs to an adoption
  have unstaged (other : ∀ payload, (commandOf d.requestId).body ≠ .adoptRoom payload) :
      c.stagedAdoptions.has d.requestId = false := by
    rw [Bool.eq_false_iff]
    intro staged
    obtain ⟨payload, body⟩ := (laws.staged _ staged).1
    exact other payload body
  have idle (other : ∀ payload, (commandOf d.requestId).body ≠ .adoptRoom payload) :
      ¬InHand c d.requestId := by
    rintro (staged | ⟨d', deleting, _⟩)
    · rw [unstaged other] at staged
      cases staged
    · exact own d' deleting
  have operates (other : ∀ payload, (commandOf d.requestId).body ≠ .adoptRoom payload)
      (result : W × Except ControlErrorCode R) : Laws commandOf (c.operate server d result) :=
    laws.operate result fresh (inTime (unstaged other)) (idle other) mine
  unfold CommandConsumer.execute
  split
  · rename_i payload body
    split
    · exact laws.reply _ fresh mine
    · exact operates (by simp [body]) _
  · rename_i payload body
    split
    · exact laws.reply _ fresh mine
    · refine laws.calls ?_ fun d' deleting => absurd deleting (own d')
      rintro _ ⟨⟩
      exact ⟨fresh, inTime (unstaged (by simp [body])), payload, body⟩
  · rename_i payload body
    exact operates (by simp [body]) _
  · rename_i payload body
    exact operates (by simp [body]) _
  · rename_i payload body
    exact operates (by simp [body]) _
  · rename_i payload body
    exact operates (by simp [body]) _
  · rename_i serverId body
    unfold CommandConsumer.drainServer
    split
    · exact laws.reply _ fresh mine
    · split
      · exact laws.reply _ fresh mine
      · exact operates (by simp [body]) _
  · rename_i payload body
    exact laws.adoptRoom body fresh inTime own
  · rename_i payload body
    split
    · have other : ∀ payload, (commandOf d.requestId).body ≠ .adoptRoom payload := by simp [body]
      have begins := laws.begins fresh (inTime (unstaged other)) (idle other)
      exact laws.underway c.world begins (fun _ => id) (fun _ => .inl) (.inr ⟨d, rfl, rfl⟩) fresh own
    · exact laws.reply _ fresh mine

theorem Laws.stored (laws : Laws commandOf c) (now : Int) (reply : Option (ControlReply R))
    (calling : c.call = some (.getStored d)) :
    Laws commandOf (c.stored server commandOf d now reply) := by
  obtain ⟨fresh, seen⟩ := laws.call _ calling
  have mine : ∀ d', c.call = some (.deleteReplay d') → d'.requestId = d.requestId := by
    rw [calling]
    exact nofun
  unfold CommandConsumer.stored
  split
  · exact laws.reply _ fresh mine
  split
  · exact laws.reply _ fresh mine
  · rename_i executes
    refine laws.execute now calling fun unstaged => ⟨d.seenAt, seen, ?_⟩
    simpa [unstaged] using executes

theorem Laws.settle (laws : Laws commandOf c) (now : Int) (works : Bool) {call : Call P R Room}
    (calling : c.call = some call) : Laws commandOf (c.settle server now works call) := by
  have lawful := laws.call _ calling
  have other (differs : ∀ d', call ≠ .deleteReplay d') : ∀ d', c.call ≠ some (.deleteReplay d') := by
    intro d' deleting
    rw [calling] at deleting
    exact differs d' (Option.some.inj deleting)
  cases call with
  | getStored d => exact laws
  | getRejoin d payload => exact laws
  | getHandoff d payload room => exact laws
  | reconcile d payload room => exact laws
  | claimAdoptedRoom d payload room =>
    cases works with
    | false => exact laws.calls (by rintro _ ⟨⟩; exact lawful) fun d' deleting =>
          absurd deleting (other nofun d')
    | true => exact laws.leaveStaging _ _ lawful.1 fun d' deleting =>
          absurd deleting (other nofun d')
  | deleteReplay d =>
    have mine : ∀ d', c.call = some (.deleteReplay d') → d'.requestId = d.requestId := by
      intro d' deleting
      rw [calling] at deleting
      cases deleting
      rfl
    cases works with
    | false => exact laws.reply _ lawful mine
    | true => exact laws.reply _ lawful mine
  | setPx d reply =>
    cases works with
    | false => exact laws.fail (other nofun)
    | true => exact laws.send calling
  | xAdd d reply =>
    cases works with
    | false => exact laws.fail (other nofun)
    | true =>
      exact (laws.acknowledge d.entryId).calls (by rintro _ ⟨⟩; trivial) fun d' deleting =>
          absurd deleting (other nofun d')
  | xAck d =>
    cases works with
    | false => exact laws.fail (other nofun)
    | true => exact laws.close now calling
  | xAddPoison entryId =>
    cases works with
    | false => exact laws.fail (other nofun)
    | true =>
      exact (laws.acknowledge entryId).calls (by rintro _ ⟨⟩; trivial) fun d' deleting =>
          absurd deleting (other nofun d')
  | xAckPoison entryId => exact laws.fail (other nofun)

theorem Laws.apply (laws : Laws commandOf c) (event : Int × ConsumerEvent W R) :
    Laws commandOf (c.apply server commandOf event) := by
  obtain ⟨now, event⟩ := event
  have other {call : Call P R Room} (calling : c.call = some call)
      (differs : ∀ d', call ≠ .deleteReplay d') : ∀ d', c.call ≠ some (.deleteReplay d') := by
    intro d' deleting
    rw [calling] at deleting
    exact differs d' (Option.some.inj deleting)
  cases event with
  | deliver entryId requestId =>
    dsimp only [CommandConsumer.apply]
    split
    · exact laws
    · rename_i idle
      exact laws.deliver (by simpa using idle) entryId requestId now
  | deliverMalformed entryId =>
    dsimp only [CommandConsumer.apply]
    split
    · exact laws
    · rename_i idle
      have idle : c.call = none := by simpa using idle
      refine laws.calls (by rintro _ ⟨⟩; trivial) ?_
      rw [idle]
      exact nofun
  | stored answer =>
    dsimp only [CommandConsumer.apply]
    split
    · rename_i d calling
      exact laws.fail (other calling nofun)
    · rename_i d reply calling
      exact laws.stored now reply calling
    · exact laws
  | rejoin answer =>
    dsimp only [CommandConsumer.apply]
    split
    · rename_i d payload calling
      exact laws.fail (other calling nofun)
    · rename_i d payload cooldown kicked calling
      obtain ⟨fresh, inTime, joins⟩ := laws.call _ calling
      have mine : ∀ d', c.call = some (.deleteReplay d') → d'.requestId = d.requestId :=
        fun d' deleting =>
          absurd deleting (other calling nofun d')
      split
      · exact laws.reply _ fresh mine
      split
      · exact laws.reply _ fresh mine
      · refine laws.operate _ fresh inTime ?_ mine
        rintro (staged | ⟨d', deleting, _⟩)
        · obtain ⟨⟨adopts, body⟩, _⟩ := laws.staged _ staged
          obtain ⟨joins, body'⟩ := joins
          rw [body] at body'
          cases body'
        · exact other calling nofun d' deleting
    · exact laws
  | state answer =>
    dsimp only [CommandConsumer.apply]
    split
    · rename_i d payload room calling
      have lawful := laws.call _ calling
      exact laws.calls (by rintro _ ⟨⟩; exact lawful) fun d' deleting =>
          absurd deleting (other calling nofun d')
    · rename_i d payload room state calling
      have lawful := laws.call _ calling
      split
      · exact laws.leaveStaging _ _ lawful.1 fun d' deleting =>
          absurd deleting (other calling nofun d')
      · exact laws.calls (by rintro _ ⟨⟩; exact lawful) fun d' deleting =>
          absurd deleting (other calling nofun d')
    · rename_i d payload room calling
      exact laws.fail (other calling nofun)
    · rename_i d payload room state calling
      have lawful := laws.call _ calling
      split
      · exact laws.leaveStaging _ _ lawful.1 fun d' deleting =>
          absurd deleting (other calling nofun d')
      · exact laws.leaveStaging _ _ lawful.1 fun d' deleting =>
          absurd deleting (other calling nofun d')
    · exact laws
  | settled works =>
    dsimp only [CommandConsumer.apply]
    split
    · rename_i call calling
      exact laws.settle now works calling
    · exact laws
  | change world => exact ⟨laws.sound, laws.kept, laws.absent, laws.call, laws.staged⟩

/-! ## What reaches the rooms -/

/-- The rooms are as they were, or the operation of the command has begun. -/
def Reaches (c after : CommandConsumer W P R Room) (d : Delivery) : Prop :=
  after.world = c.world ∨ .began d.requestId ∈ after.log

theorem Reaches.began {world : W} {log : List (Record R)} {local_ staged call} :
    Reaches c (⟨world, local_, staged, call, .began d.requestId :: log⟩ :
      CommandConsumer W P R Room) d :=
  .inr List.mem_cons_self

theorem reaches_adoptRoom (payload : AdoptRoomPayload P) :
    Reaches c (c.adoptRoom server d payload) d := by
  unfold CommandConsumer.adoptRoom
  split
  · exact .inl rfl
  split
  · exact .inl rfl
  split
  · exact .inl rfl
  split
  · exact .inl rfl
  split
  · exact .began
  · exact .began

theorem reaches_execute (now : Int) : Reaches c (c.execute server commandOf d now) d := by
  unfold CommandConsumer.execute
  split
  · split
    · exact .inl rfl
    · exact .began
  · split
    · exact .inl rfl
    · exact .inl rfl
  · exact .began
  · exact .began
  · exact .began
  · exact .began
  · unfold CommandConsumer.drainServer
    split
    · exact .inl rfl
    · split
      · exact .inl rfl
      · exact .began
  · exact reaches_adoptRoom _
  · split
    · exact .began
    · exact .inl rfl

theorem reaches_stored (now : Int) (reply : Option (ControlReply R)) :
    Reaches c (c.stored server commandOf d now reply) d := by
  unfold CommandConsumer.stored
  split
  · exact .inl rfl
  split
  · exact .inl rfl
  · exact reaches_execute now

/-- A step that changes the rooms is one of a command whose operation has begun. -/
theorem Laws.reaches (laws : Laws commandOf c) {event : Int × ConsumerEvent W R}
    (own : ¬event.2.Changes) :
    (c.apply server commandOf event).world = c.world ∨
      ∃ d, c.call.bind Call.delivery? = some d ∧
        .began d.requestId ∈ (c.apply server commandOf event).log := by
  obtain ⟨now, event⟩ := event
  have begun {d : Delivery} (lawful : c.stagedAdoptions.has d.requestId = true) :
      .began d.requestId ∈ c.log := (laws.staged _ lawful).2
  cases event with
  | deliver entryId requestId =>
    left
    dsimp only [CommandConsumer.apply]
    split
    · rfl
    · unfold CommandConsumer.deliver
      dsimp only
      split <;> rfl
  | deliverMalformed entryId =>
    left
    dsimp only [CommandConsumer.apply]
    split <;> rfl
  | stored answer =>
    dsimp only [CommandConsumer.apply]
    split
    · exact .inl rfl
    · rename_i d reply calling
      have reaches : Reaches c (c.stored server commandOf d now reply) d := reaches_stored now reply
      rcases reaches with same | began
      · exact .inl same
      · exact .inr ⟨d, by rw [calling]; rfl, began⟩
    · exact .inl rfl
  | rejoin answer =>
    dsimp only [CommandConsumer.apply]
    split
    · exact .inl rfl
    · rename_i d payload cooldown kicked calling
      split
      · exact .inl rfl
      split
      · exact .inl rfl
      · exact .inr ⟨d, by rw [calling]; rfl, List.mem_cons_self⟩
    · exact .inl rfl
  | state answer =>
    dsimp only [CommandConsumer.apply]
    split
    · exact .inl rfl
    · rename_i d payload room state calling
      split
      · exact .inr ⟨d, by rw [calling]; rfl, begun (laws.call _ calling).2⟩
      · exact .inl rfl
    · exact .inl rfl
    · rename_i d payload room state calling
      have lawful := laws.call _ calling
      split
      · exact .inr ⟨d, by rw [calling]; rfl, begun lawful.2⟩
      · exact .inr ⟨d, by rw [calling]; rfl, begun lawful.2⟩
    · exact .inl rfl
  | settled works =>
    dsimp only [CommandConsumer.apply]
    split
    · rename_i call calling
      have lawful := laws.call _ calling
      cases call with
      | claimAdoptedRoom d payload room =>
        cases works with
        | false => exact .inl rfl
        | true => exact .inr ⟨d, by rw [calling]; rfl, begun lawful.2⟩
      | _ => cases works <;> exact .inl rfl
    · exact .inl rfl
  | change world => exact absurd trivial own

/-! ## Runs -/

theorem laws_start (world : W) :
    Laws commandOf (CommandConsumer.start world : CommandConsumer W P R Room) where
  sound newer record past split := by cases newer <;> cases split
  kept _ _ := nofun
  absent requestId _ := ⟨fun _ _ => nofun, nofun⟩
  call := nofun
  staged _ := nofun

/-- A command that was first seen after its deadline, by a clock that does not go back, has not begun. -/
theorem Sound.late (sound : Sound commandOf log) {newer : List (Record R)} {clock : Int}
    (split : log = newer ++ .seen requestId clock :: past)
    (first : ∀ earlier, .seen requestId earlier ∉ past)
    (late : (commandOf requestId).deadlineAt < clock)
    (forward : ∀ later, .seen requestId later ∈ newer → clock ≤ later) :
    .began requestId ∉ log := by
  intro began
  obtain ⟨time, seen, inTime⟩ := sound.inTime began
  rw [split, List.mem_append, List.mem_cons] at seen
  rcases seen with after | here | before
  · have := forward time after
    omega
  · cases here
    omega
  · exact first time before

/-- Since its reply was last forgotten a command has begun once and got one reply, and its reply is
forgotten only when its time after an acknowledgement is over. A reply is written before its entry is
acknowledged. A command that was first seen after its deadline does not begin, and no other step of it
changes the rooms. -/
theorem commands_carried_out_once {world : W} {c : CommandConsumer W P R Room}
    (run : Reach (fun _ _ => True) (CommandConsumer.apply server commandOf)
      (CommandConsumer.start world) c) :
    (∀ newer requestId past, c.log = newer ++ .began requestId :: past →
      .began requestId ∉ recent requestId past) ∧
    (∀ newer entryId requestId reply past, c.log = newer ++ .sent entryId requestId reply :: past →
      ∀ entryId' other, .sent entryId' requestId other ∈ recent requestId past → other = reply) ∧
    (∀ newer requestId clock past, c.log = newer ++ .purged requestId clock :: past →
      ∃ closed, .closed requestId closed ∈ recent requestId past ∧
        closed + operationResultTtlMs ≤ clock) ∧
    (∀ newer entryId past, c.log = newer ++ .acknowledged entryId :: past →
      ∃ before, past = .written entryId :: before) ∧
    (∀ newer requestId clock past, c.log = newer ++ .seen requestId clock :: past →
      (∀ earlier, .seen requestId earlier ∉ past) → (commandOf requestId).deadlineAt < clock →
      (∀ later, .seen requestId later ∈ newer → clock ≤ later) → .began requestId ∉ c.log) ∧
    ∀ event : Int × ConsumerEvent W R, ¬event.2.Changes →
      (c.apply server commandOf event).world = c.world ∨
        ∃ d, c.call.bind Call.delivery? = some d ∧
          .began d.requestId ∈ (c.apply server commandOf event).log := by
  have laws : Laws commandOf c :=
    run.invariant (laws_start world) fun _ event before _ => before.apply event
  refine ⟨?_, ?_, ?_, ?_, ?_, fun event own => laws.reaches own⟩
  · exact fun newer requestId past split => (laws.sound newer _ past split).1
  · exact fun newer entryId requestId reply past split => laws.sound newer _ past split
  · exact fun newer requestId clock past split => laws.sound newer _ past split
  · exact fun newer entryId past split => laws.sound newer _ past split
  · exact fun newer requestId clock past split first late forward =>
      laws.sound.late split first late forward

/-! ## Two entries of one command -/

/-- A server that has no room and takes none. -/
def emptyServer : GameServer Unit Unit Unit Unit where
  serverId := "server"
  isDraining _ := false
  createRoom _ _ world := (world, .error .serverFull)
  reserveJoin _ _ world := (world, .error .roomNotFound)
  reserveResume _ _ world := (world, .error .noGraceSlot)
  releaseSeat _ world := (world, .error .roomNotFound)
  kickUser _ world := (world, .error .roomNotFound)
  grantMatch _ world := (world, .error .roomNotFound)
  beginDrain := none
  remainingRooms _ := ()
  adoptRoom _ world := (world, .error .serverFull)
  discardStagedRoom _ world := world
  trackAdoptedRoom _ world := world
  commitAdoptedRoom _ world := world
  deletesReplays := false
  empty := ()

def releaseSeat : String → ControlCommand Unit := fun _ => ⟨5, .releaseSeat ()⟩

/-- The second entry comes after the retention time of the first. -/
def lateDuplicate : List (Int × ConsumerEvent Unit Unit) :=
  [(0, .deliver "1" "request"), (0, .stored (some none)), (0, .settled true), (0, .settled true),
    (1, .settled true), (70000, .deliver "2" "request"), (70000, .stored (some none)),
    (70000, .settled true)]

def afterDuplicate : CommandConsumer Unit Unit Unit Unit :=
  lateDuplicate.foldl (CommandConsumer.apply emptyServer releaseSeat) (.start ())

theorem reach_afterDuplicate :
    Reach (fun _ _ => True) (CommandConsumer.apply emptyServer releaseSeat) (.start ())
      afterDuplicate :=
  .of_list (by simp [AllowedRun, lateDuplicate])

theorem late_duplicate_differs :
    Reach (fun _ _ => True) (CommandConsumer.apply emptyServer releaseSeat) (.start ())
        afterDuplicate ∧
      .sent "1" "request" (CommandConsumer.failure emptyServer "request" .roomNotFound) ∈
        afterDuplicate.log ∧
      .sent "2" "request" (CommandConsumer.failure emptyServer "request" .expired) ∈
        afterDuplicate.log ∧
      CommandConsumer.failure emptyServer "request" .roomNotFound ≠
        CommandConsumer.failure emptyServer "request" .expired := by
  refine ⟨reach_afterDuplicate, ?_, ?_, ?_⟩ <;> decide +kernel

theorem duplicate_begins_once : .began "request" ∉ recent "request" (afterDuplicate.log.drop 8) :=
  (commands_carried_out_once reach_afterDuplicate).1 (afterDuplicate.log.take 7) "request" _
    (by decide +kernel)

end SwitchRemake.Redis

import SwitchRemake.Lib.Runs
import SwitchRemake.Redis.ResultJournal

/-!
# The outbox of results

`redis/result-outbox.ts`. A worker runs one synchronous section at a time, and other workers come
between the operations on the directory. Between two sections a flush may be waiting for an answer,
and then `enqueue` can run.
-/

namespace SwitchRemake.Redis
open Lib ResultJournal

/-- Who called `#persistPending`. -/
inductive Caller where
  | enqueue
  | flush
  deriving DecidableEq

/-- Where a synchronous section stands: the operation that comes next. -/
inductive Section (K : Type) where
  | publishing (caller : Caller)
  | comparing (caller : Caller)
  | finishing (caller : Caller)
  | listing
  | reading (last next : String) (later : List String) (results : List (Entry K))
  | checkingReady (results : List (Entry K))
  | acknowledging (entry : Entry K) (later : List (Entry K))
  | syncing (later : List (Entry K))

/-- The call a flush waits for. -/
inductive Awaited (K : Type) where
  | adding (sent : Nat)
  | isPersisted (entry : Entry K) (later : List (Entry K))
  | setPxIfAbsent (entry : Entry K) (later : List (Entry K))
  | xAdd (entry : Entry K) (later : List (Entry K))
  | compareAndDelete

structure ResultOutbox (K : Type) where
  maxEntries : Nat
  journaled : Bool
  queue : List MatchResultMessage
  journalFailed : Bool
  cursor : String
  running : Option (Section K)
  awaited : Option (Awaited K)

/-- `works` tells whether an operation on the directory goes through or throws, and an answer is none
where the call fails. -/
inductive OutboxEvent where
  | enqueue (result : MatchResultMessage)
  | flush (ready : Bool)
  | file (works : Bool)
  | ready (ready : Bool)
  | answer (answer : Option Bool)
  | canStartNewGame (works : Bool)

/-- What a step does, with the results it accepts, the results whose `xAdd` succeeds without a
journal, and the entries that `isPersisted` answers true for. -/
structure OutboxStep (K : Type) where
  outbox : ResultOutbox K
  files : Directory
  accepted : List MatchResultMessage := []
  delivered : List MatchResultMessage := []
  persisted : List (Entry K) := []

namespace ResultOutbox
variable {K : Type} [JsNumber K] [JsonNumber K]

omit [JsNumber K] [JsonNumber K] in
def start (maxEntries : Nat) (journaled : Bool) (cursor : String) : ResultOutbox K :=
  { maxEntries, journaled, cursor, queue := [], journalFailed := false, running := none
    awaited := none }

omit [JsNumber K] [JsonNumber K] in
def size (o : ResultOutbox K) (files : Directory) : Nat :=
  o.queue.length + if o.journaled then (names files).length else 0

omit [JsNumber K] [JsonNumber K] in
def canStartNewGame (o : ResultOutbox K) (files : Directory) : Bool :=
  !o.journalFailed && o.size files < o.maxEntries

omit [JsNumber K] [JsonNumber K] in
/-- The journal failed under a section: `enqueue` throws, and a flush returns. -/
def fail (o : ResultOutbox K) : ResultOutbox K :=
  { o with journalFailed := true, running := none }

omit [JsNumber K] [JsonNumber K] in
/-- One turn of the loop of `#persistPending`. -/
def persistPending (o : ResultOutbox K) (caller : Caller) : ResultOutbox K :=
  match o.queue, caller with
  | _ :: _, _ => { o with running := some (.publishing caller) }
  | [], .enqueue => { o with running := none }
  | [], .flush => { o with running := some .listing }

omit [JsNumber K] [JsonNumber K] in
/-- `entries` goes to the next file of the batch, and moves the cursor after the last. -/
def readFrom (o : ResultOutbox K) (last : String) (next : List String) (results : List (Entry K)) :
    ResultOutbox K :=
  match next with
  | [] => { o with cursor := last, journalFailed := false, running := some (.checkingReady results) }
  | name :: later => { o with running := some (.reading last name later results) }

omit [JsNumber K] [JsonNumber K] in
/-- `#flushJournal` goes to the next entry. -/
def deliver (o : ResultOutbox K) : List (Entry K) → ResultOutbox K
  | [] => { o with running := none, awaited := none }
  | entry :: later => { o with running := none, awaited := some (.isPersisted entry later) }

omit [JsNumber K] [JsonNumber K] in
/-- The loop of `#flushOnce` after `sent` results: the next one, or the prefix that went out is cut
off. -/
def addNext (o : ResultOutbox K) (sent : Nat) : ResultOutbox K :=
  if sent < o.queue.length then { o with awaited := some (.adding sent) }
  else { o with awaited := none, queue := o.queue.drop sent }

/-- The operation on the directory that a section has come to. -/
def proceed (hash : String → String) (o : ResultOutbox K) (files : Directory) (works : Bool) :
    Section K → ResultOutbox K × Directory
  | .publishing caller =>
    match o.queue with
    | [] => (o, files)
    | result :: _ =>
      if works && appendable hash K result then
        if files.has (nameOf hash result.matchId) then
          ({ o with running := some (.comparing caller) }, files)
        else
          ({ o with running := some (.finishing caller) },
            files.set ⟨nameOf hash result.matchId, serialized hash K result⟩)
      else (o.fail, files)
  | .comparing caller =>
    match o.queue with
    | [] => (o, files)
    | result :: _ =>
      match works, read (nameOf hash result.matchId) files with
      | true, .ok text =>
        if text = serialized hash K result then
          ({ o with running := some (.finishing caller) }, files)
        else (o.fail, files)
      | _, _ => (o.fail, files)
  | .finishing caller =>
    if works then ({ o with queue := o.queue.tail }.persistPending caller, files)
    else (o.fail, files)
  | .listing =>
    if works then
      let batch := batch 128 o.cursor (names files)
      (o.readFrom (batch.getLastD "") batch [], files)
    else (o.fail, files)
  | .reading last name later results =>
    if works then
      match read name files with
      | .error .missing => (o.readFrom last later results, files)
      | .error .oversized => (o.fail, files)
      | .ok text =>
        match entryOf hash name text with
        | none => (o.fail, files)
        | some entry => (o.readFrom last later (results ++ [entry]), files)
    else (o.fail, files)
  | .checkingReady _ => (o, files)
  | .acknowledging entry later =>
    if works then ({ o with running := some (.syncing later) }, files.delete (nameOf hash entry.matchId))
    else ({ o with running := none }, files)
  | .syncing later => (if works then o.deliver later else { o with running := none }, files)

/-- A flush goes on after the call it waited for. -/
def resume (o : ResultOutbox K) (files : Directory) (answer : Option Bool) :
    Awaited K → OutboxStep K
  | .adding sent =>
    match answer with
    | some _ =>
      { outbox := o.addNext (sent + 1), files, delivered := (o.queue.drop sent).take 1 }
    | none => { outbox := { o with awaited := none, queue := o.queue.drop sent }, files }
  | .isPersisted entry later =>
    match answer with
    | some true =>
      { outbox := { o with awaited := none, running := some (.acknowledging entry later) }, files
        persisted := [entry] }
    | some false => { outbox := { o with awaited := some (.setPxIfAbsent entry later) }, files }
    | none => { outbox := { o with awaited := none }, files }
  | .setPxIfAbsent entry later =>
    match answer with
    | some true => { outbox := { o with awaited := some (.xAdd entry later) }, files }
    | some false => { outbox := o.deliver later, files }
    | none => { outbox := { o with awaited := none }, files }
  | .xAdd _ later =>
    match answer with
    | some _ => { outbox := o.deliver later, files }
    | none => { outbox := { o with awaited := some .compareAndDelete }, files }
  | .compareAndDelete => { outbox := { o with awaited := none }, files }

/-- A step of a worker. What cannot happen where it stands changes nothing. -/
def next (hash : String → String) (o : ResultOutbox K) (files : Directory) :
    OutboxEvent → OutboxStep K
  | .enqueue result =>
    if o.running.isSome then { outbox := o, files }
    else if o.journaled then
      { outbox := { o with queue := o.queue ++ [result] }.persistPending .enqueue, files
        accepted := [result] }
    else if o.maxEntries ≤ o.queue.length then { outbox := o, files }
    else { outbox := { o with queue := o.queue ++ [result] }, files, accepted := [result] }
  | .flush ready =>
    if o.running.isSome || o.awaited.isSome then { outbox := o, files }
    else if o.journaled then { outbox := o.persistPending .flush, files }
    else if ready then { outbox := o.addNext 0, files }
    else { outbox := o, files }
  | .file works =>
    match o.running with
    | none => { outbox := o, files }
    | some current =>
      { outbox := (proceed hash o files works current).1, files := (proceed hash o files works current).2 }
  | .ready ready =>
    match o.running with
    | some (.checkingReady results) =>
      { outbox := if ready then o.deliver results else { o with running := none }, files }
    | _ => { outbox := o, files }
  | .answer answer =>
    match o.running, o.awaited with
    | none, some call => resume o files answer call
    | _, _ => { outbox := o, files }
  | .canStartNewGame works =>
    if o.running.isNone && o.journaled && !works then
      { outbox := { o with journalFailed := true }, files }
    else { outbox := o, files }

end ResultOutbox

/-! ## Workers on one directory -/

/-- The outboxes of all workers, with what has happened: what each accepted and delivered, and what
`isPersisted` has answered true for. -/
structure Outboxes (ι K : Type) where
  outbox : ι → ResultOutbox K
  files : Directory
  accepted : ι → List MatchResultMessage
  delivered : ι → List MatchResultMessage
  persisted : List (Entry K)

namespace Outboxes
variable {ι K : Type} [DecidableEq ι] [JsNumber K] [JsonNumber K]

omit [DecidableEq ι] [JsNumber K] [JsonNumber K] in
def start (outbox : ι → ResultOutbox K) (files : Directory) : Outboxes ι K :=
  { outbox, files, accepted := fun _ => [], delivered := fun _ => [], persisted := [] }

def apply (hash : String → String) (s : Outboxes ι K) (event : ι × OutboxEvent) : Outboxes ι K :=
  let step := (s.outbox event.1).next hash s.files event.2
  { outbox := Function.update s.outbox event.1 step.outbox
    files := step.files
    accepted := Function.update s.accepted event.1 (s.accepted event.1 ++ step.accepted)
    delivered := Function.update s.delivered event.1 (s.delivered event.1 ++ step.delivered)
    persisted := s.persisted ++ step.persisted }

end Outboxes
end SwitchRemake.Redis

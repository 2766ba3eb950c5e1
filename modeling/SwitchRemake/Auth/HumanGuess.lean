import SwitchRemake.Auth.HumanBooks

/-!
# Guesses are counted

A wrong answer counts against its subject and its address, and a challenge that is asked for while
the count stands comes with a round.
-/

namespace SwitchRemake.Auth.Human
open Lib Redis HumanCheck

variable {security : Security} {s s' : HumanRun}

/-! ## What the judgement lets through -/

/-- The slot that the round of a challenge asks for. -/
def HumanRound.target (round : HumanRound) : Nat :=
  match round.kind with
  | .switch => (buildSwitchRound round.seed).target
  | .radio => buildRadioRound round.seed

/-- When an answer to the round may come: `elapsed` since it was issued, at its claimed time. -/
def HumanRound.InTime (round : HumanRound) (elapsed : Int) (answer : HumanChallengeAnswer) : Prop :=
  match round.kind with
  | .switch => ∃ atMs, answer.atMs = some atMs ∧ atMs ≤ elapsed ∧
      (buildSwitchRound round.seed).openAt - graceMs ≤ atMs ∧
      atMs ≤ (buildSwitchRound round.seed).caughtAt + graceMs
  | .radio => minElapsedMs ≤ elapsed

theorem checkRound_passes {round : HumanRound} {elapsed : Int} {answer : Option HumanChallengeAnswer}
    (passes : checkRound round elapsed answer = .passes) :
    ∃ given, answer = some given ∧ given.slot = round.target ∧ round.InTime elapsed given := by
  obtain ⟨kind, seed⟩ := round
  cases kind with
  | radio =>
    simp only [checkRound] at passes
    split at passes
    · cases passes
    · split at passes
      · next late right =>
        obtain ⟨given, rfl, slot⟩ := Option.map_eq_some_iff.mp right
        exact ⟨given, rfl, slot, by simpa [HumanRound.InTime] using late⟩
      · cases passes
  | switch =>
    cases answer with
    | none => simp [checkRound] at passes
    | some given =>
      cases time : given.atMs with
      | none => simp [checkRound, time] at passes
      | some atMs =>
        simp only [checkRound, time] at passes
        split at passes
        · cases passes
        · next elapsedEnough =>
          cases verdict : checkSwitchAnswer (buildSwitchRound seed) given.slot atMs with
          | ok =>
            obtain ⟨slot, opened, caught⟩ := checkSwitchAnswer_ok.mp verdict
            exact ⟨given, rfl, slot, atMs, time, by omega, opened, caught⟩
          | early | late | wrong => simp [verdict] at passes

theorem judge_passes {stored : StoredChallenge} {request : VerifyRequest} {clock : Int}
    {round : HumanRound} (passes : judge security stored request clock = .passes)
    (asked : stored.round = some round) : ∃ given, request.answer = some given ∧
      given.slot = round.target ∧ round.InTime (clock - stored.issuedAt) given := by
  unfold judge at passes
  split at passes
  · cases passes
  · split at passes
    · cases passes
    · exact checkRound_passes (by simpa [asked] using passes)

theorem judge_fails {stored : StoredChallenge} {request : VerifyRequest} {clock : Int}
    {error : ErrorCode} (fails : judge security stored request clock = .fails error) :
    request.ipHash = stored.contextHash := by
  unfold judge at fails
  split at fails
  · cases fails
  · next same => exact (not_not.mp same).symm

/-- The answer was compared, and its slot is not the target. -/
def Evaluation.WrongSlot (security : Security) (e : Evaluation) : Prop :=
  (∃ round, e.stored.round = some round ∧
    e.request.answer.map HumanChallengeAnswer.slot ≠ some round.target) ∧
  ∀ error, e.verdict security ≠ .refused error

theorem Evaluation.WrongSlot.fails {e : Evaluation} (wrong : e.WrongSlot security) :
    ∃ error, e.verdict security = .fails error := by
  obtain ⟨⟨round, asked, slot⟩, compared⟩ := wrong
  cases verdict : e.verdict security with
  | passes =>
    obtain ⟨given, answer, right, _⟩ := judge_passes verdict asked
    exact absurd (by simp [answer, right]) slot
  | refused error => exact absurd verdict (compared error)
  | fails error => exact ⟨error, rfl⟩

/-! ## Every wrong answer is counted -/

/-- How far the evaluation that failed has come with its two counters. -/
inductive Counting (s : HumanRun) (e : Evaluation) (error : ErrorCode) : Prop where
  | none (here : s.calls[e.place]? = some (.failSubject e.stored e.stored.contextHash error))
  | subject (here : s.calls[e.place]? = some (.failAddress e.stored e.stored.contextHash error))
      (raised : ∃ r ∈ s.raised, r.place = e.place ∧ r.kind = .subject ∧ r.hash = e.stored.subjectHash)
  | both (here : s.calls[e.place]? = some (.verified (.error error)))
      (raised : ∀ kind, ∃ r ∈ s.raised, r.place = e.place ∧ r.kind = kind ∧
        r.hash = match kind with
          | .subject => e.stored.subjectHash
          | .address => e.stored.contextHash)

def Counted (security : Security) (s : HumanRun) : Prop :=
  ∀ e ∈ s.evaluations, ∀ error, e.verdict security = .fails error → Counting s e error

section
variable {place : Nat} {draw : Draw} {call : HumanCall} {e : Evaluation} {error : ErrorCode}

theorem Counting.carry (counting : Counting s e error) (same : s'.calls[e.place]? = s.calls[e.place]?)
    (raised : s.raised ⊆ s'.raised) : Counting s' e error := by
  cases counting with
  | none here => exact .none (same ▸ here)
  | subject here one =>
    obtain ⟨r, mem, facts⟩ := one
    exact .subject (same ▸ here) ⟨r, raised mem, facts⟩
  | both here two =>
    refine .both (same ▸ here) fun kind => ?_
    obtain ⟨r, mem, facts⟩ := two kind
    exact ⟨r, raised mem, facts⟩

theorem bumped (keys : HumanKeys) (key : CounterKey) (ttl : Nat) :
    ∃ entry, (keys.increment key ttl).counters key = some entry ∧ 1 ≤ entry.value := by
  have here : (Cell.bump keys.now (ttl * 1000) (keys.counters key)).get keys.now = _ := Cell.get_bump
  obtain ⟨entry, there, value, _⟩ := Cell.eq_some_of_get here
  refine ⟨entry, ?_, by omega⟩
  simpa [HumanKeys.increment, HumanKeys.setCounter, incrementWithTtl] using there

/-- The turn at its own place takes it one counter further. -/
theorem Counting.send (counting : Counting s e error) (found : s.calls[e.place]? = some call) :
    Counting (s.send security e.place draw call) e error := by
  have grows : s.raised ⊆ (s.send security e.place draw call).raised := List.subset_append_left _ _
  obtain ⟨inside, _⟩ := List.getElem?_eq_some_iff.mp found
  have turned : (s.send security e.place draw call).calls[e.place]? =
      some (call.turn security s.keys draw).2 := by simp [HumanRun.send, inside]
  cases counting with
  | none here =>
    obtain rfl := Option.some.inj (here.symm.trans found)
    obtain ⟨entry, there, _⟩ := bumped s.keys (.failure .subject e.stored.subjectHash) FAILURE_TTL_SECONDS
    refine .subject turned ⟨⟨e.place, .subject, e.stored.subjectHash, entry.expiresAt⟩,
      List.mem_append_right _ ?_, rfl, rfl, rfl⟩
    simp [HumanCall.raises, HumanCall.turn, there]
  | subject here one =>
    obtain rfl := Option.some.inj (here.symm.trans found)
    obtain ⟨r, mem, at_, kind, hash⟩ := one
    obtain ⟨entry, there, _⟩ := bumped s.keys (.failure .address e.stored.contextHash) FAILURE_TTL_SECONDS
    refine .both turned fun counter => ?_
    cases counter with
    | subject => exact ⟨r, grows mem, at_, kind, hash⟩
    | address =>
      refine ⟨⟨e.place, .address, e.stored.contextHash, entry.expiresAt⟩,
        List.mem_append_right _ ?_, rfl, rfl, rfl⟩
      simp [HumanCall.raises, HumanCall.turn, there]
  | both here two =>
    obtain rfl := Option.some.inj (here.symm.trans found)
    exact Counting.carry (.both here two) (turned.trans here.symm) grows

theorem Counted.send (counted : Counted security s) (found : s.calls[place]? = some call) :
    Counted security (s.send security place draw call) := by
  intro e mem error fails
  rcases List.mem_append.mp mem with old | new
  · by_cases own : e.place = place
    · subst own
      exact (counted e old error fails).send found
    · exact (counted e old error fails).carry (by simp [HumanRun.send, Ne.symm own])
        (List.subset_append_left _ _)
  · cases call with
    | verifyTake request stored =>
      simp only [HumanCall.evaluates] at new
      split at new
      · next taken =>
        obtain rfl := List.mem_singleton.mp new
        obtain ⟨inside, _⟩ := List.getElem?_eq_some_iff.mp found
        have fails : judge security stored request draw.clock = .fails error := fails
        refine .none ?_
        simp [HumanRun.send, HumanCall.turn, taken, fails, inside, judge_fails fails]
      · cases new
    | _ => cases new

theorem Counted.reach (run : Reach HumanRun.Allowed (HumanRun.apply security) .start s) :
    Counted security s := by
  refine run.invariant (by simp [Counted, HumanRun.start]) fun s op counted may => ?_
  have begins (call : HumanCall) : Counted security (s.begin call) := by
    intro e mem error fails
    have counting := counted e mem error fails
    have inside : e.place < s.calls.length := by
      cases counting with
      | none here | subject here _ | both here _ => exact (List.getElem?_eq_some_iff.mp here).1
    exact counting.carry (by simp [HumanRun.begin, List.getElem?_append, inside]) (List.Subset.refl _)
  cases op with
  | tick ms =>
    intro e mem error fails
    exact (counted e mem error fails).carry rfl (List.Subset.refl _)
  | issue | verify | consumeProof | recordLoginFailure | clearLoginFailures => exact begins _
  | turn place draw =>
    cases found : s.calls[place]? with
    | none => simpa [HumanRun.apply, found] using counted
    | some call => simpa [HumanRun.apply, found] using counted.send found

end

/-! ## A count that stands asks for a round -/

/-- The counter of the raise has not run out, or its key is still there to be read. -/
def Standing (keys : HumanKeys) (r : Raise) : Prop :=
  keys.now ≤ r.expiresAt →
    ∃ n, 1 ≤ n ∧ keys.counters (.failure r.kind r.hash) = some ⟨n, r.expiresAt⟩

def Raise.Concerns (r : Raise) (subjectHash ipHash : String) : Prop :=
  match r.kind with
  | .subject => subjectHash = r.hash
  | .address => ipHash = r.hash

/-- An issue that has read the counter has found it raised. -/
def HumanCall.Heeds (r : Raise) : HumanCall → Prop
  | .issueAddress request _ subjectFailures =>
    r.kind = .subject → request.subjectHash = r.hash → 1 ≤ subjectFailures
  | .issueEmail request _ failures | .issuePair request _ failures _ =>
    r.Concerns request.subjectHash request.ipHash → 1 ≤ failures
  | .issueStore request _ round => r.Concerns request.subjectHash request.ipHash → round = true
  | .issued (some (_, stored)) =>
    r.Concerns stored.subjectHash stored.contextHash → stored.round ≠ none
  | _ => True

section
variable {r : Raise} {keys : HumanKeys} {draw : Draw} {call : HumanCall}

theorem Standing.count (standing : Standing keys r) (alive : keys.now ≤ r.expiresAt) :
    1 ≤ keys.count (.failure r.kind r.hash) := by
  obtain ⟨n, pos, there⟩ := standing alive
  simpa [HumanKeys.count, there, Cell.get, alive] using pos

theorem assess_heeds {request : IssueRequest} {issues failures loginRisk : Nat}
    (found : r.Concerns request.subjectHash request.ipHash → 1 ≤ failures) :
    (assess request issues failures loginRisk).Heeds r := by
  simp only [assess]
  split
  · split
    · trivial
    · exact fun _ => rfl
  · next quiet =>
    intro concerns
    exact absurd (.inl (found concerns)) quiet

theorem turn_heeds (standing : Standing keys r) (alive : keys.now ≤ r.expiresAt)
    (heeds : call.Heeds r) : (call.turn security keys draw).2.Heeds r := by
  have count := standing.count alive
  cases call with
  | issueSubject request issues =>
    intro kind hash
    simpa [kind, hash] using count
  | issueAddress request issues subjectFailures =>
    have found : r.Concerns request.subjectHash request.ipHash →
        1 ≤ subjectFailures + keys.count (.failure .address request.ipHash) := by
      intro concerns
      cases kind : r.kind with
      | subject =>
        have hash : request.subjectHash = r.hash := by simpa [Raise.Concerns, kind] using concerns
        exact Nat.le_trans (heeds kind hash) (Nat.le_add_right _ _)
      | address =>
        have hash : request.ipHash = r.hash := by simpa [Raise.Concerns, kind] using concerns
        rw [kind, ← hash] at count
        exact Nat.le_trans count (Nat.le_add_left _ _)
    simp only [HumanCall.turn]
    split
    · exact found
    · exact assess_heeds found
  | issueEmail request issues failures => exact heeds
  | issuePair request issues failures emailRisk => exact assess_heeds heeds
  | issueRadio request bits =>
    simp only [HumanCall.turn]
    split
    · trivial
    · exact fun _ => rfl
  | issueStore request bits round =>
    intro concerns
    simp [challengeOf, heeds concerns]
  | issued challenge => exact heeds
  | verifyRead request =>
    simp only [HumanCall.turn]
    split <;> trivial
  | verifyTake request stored =>
    simp only [HumanCall.turn]
    split
    · split <;> trivial
    · trivial
  | consumeRead request =>
    simp only [HumanCall.turn]
    split
    · trivial
    · split <;> trivial
  | _ => trivial

theorem Standing.increment (standing : Standing keys r) (alive : keys.now ≤ r.expiresAt)
    {ttl : Nat} : Standing (keys.increment (.failure r.kind r.hash) ttl) r := by
  intro _
  obtain ⟨n, pos, there⟩ := standing alive
  refine ⟨n + 1, Nat.le_add_left _ _, ?_⟩
  simp [HumanKeys.increment, HumanKeys.setCounter, incrementWithTtl, there, Cell.bump, alive]

/-- A turn raises a failure counter or leaves it alone. -/
theorem turn_counter (security : Security) (keys : HumanKeys) (draw : Draw) (call : HumanCall)
    (kind : FailureKind) (hash : String) :
    (call.turn security keys draw).1.counters (.failure kind hash) =
        keys.counters (.failure kind hash) ∨
      (call.turn security keys draw).1 = keys.increment (.failure kind hash) FAILURE_TTL_SECONDS := by
  cases call with
  | failSubject stored ipHash error =>
    by_cases own : FailureKind.subject = kind ∧ stored.subjectHash = hash
    · obtain ⟨rfl, rfl⟩ := own
      exact .inr rfl
    · left
      simp only [HumanCall.turn, HumanKeys.increment, HumanKeys.setCounter, CounterKey.failure.injEq]
      exact if_neg fun same => own ⟨same.1.symm, same.2.symm⟩
  | failAddress stored ipHash error =>
    by_cases own : FailureKind.address = kind ∧ ipHash = hash
    · obtain ⟨rfl, rfl⟩ := own
      exact .inr rfl
    · left
      simp only [HumanCall.turn, HumanKeys.increment, HumanKeys.setCounter, CounterKey.failure.injEq]
      exact if_neg fun same => own ⟨same.1.symm, same.2.symm⟩
  | verifyRead request | consumeRead request =>
    left
    simp only [HumanCall.turn]
    split <;> rfl
  | _ => exact .inl rfl

theorem turn_now : (call.turn security keys draw).1.now = keys.now := by
  cases call with
  | verifyRead request | consumeRead request =>
    simp only [HumanCall.turn]
    split <;> rfl
  | _ => rfl

theorem Standing.turn (standing : Standing keys r) : Standing (call.turn security keys draw).1 r := by
  intro alive
  rw [turn_now] at alive
  rcases turn_counter security keys draw call r.kind r.hash with same | raised
  · rw [same]
    exact standing alive
  · rw [raised]
    exact standing.increment alive alive

/-- Both are kept by every step: the counter, and what the later calls have made of it. -/
structure Warned (r : Raise) (first : Nat) (s : HumanRun) : Prop where
  standing : Standing s.keys r
  heeds : s.keys.now ≤ r.expiresAt → ∀ place call, first ≤ place → s.calls[place]? = some call →
    call.Heeds r

theorem Warned.apply {first : Nat} {op : HumanOp} (warned : Warned r first s) :
    Warned r first (s.apply security op) := by
  have begins (call : HumanCall) (heeds : call.Heeds r) : Warned r first (s.begin call) := by
    refine ⟨warned.standing, fun alive place other later here => ?_⟩
    rcases HumanRun.begin_call here with old | ⟨_, rfl⟩
    · exact warned.heeds alive place other later old
    · exact heeds
  cases op with
  | tick ms =>
    constructor
    · exact fun alive => warned.standing (Nat.le_trans (Nat.le_add_right _ _) alive)
    · exact fun alive => warned.heeds (Nat.le_trans (Nat.le_add_right _ _) alive)
  | issue | verify | recordLoginFailure | clearLoginFailures => exact begins _ trivial
  | consumeProof proofToken => cases proofToken <;> exact begins _ trivial
  | turn place draw =>
    cases found : s.calls[place]? with
    | none => simpa [HumanRun.apply, found] using warned
    | some call =>
      simp only [HumanRun.apply, found]
      refine ⟨warned.standing.turn, fun still other result later here => ?_⟩
      have alive : s.keys.now ≤ r.expiresAt := by
        simpa [HumanRun.send, turn_now] using still
      rcases HumanRun.send_call found here with ⟨rfl, rfl⟩ | ⟨_, old⟩
      · exact turn_heeds warned.standing alive (warned.heeds alive other call later found)
      · exact warned.heeds alive other result later old

theorem raises_standing {place : Nat} {after : HumanKeys}
    (turned : (call.turn security keys draw).1 = after) (mem : r ∈ call.raises after place) :
    Standing after r := by
  subst turned
  intro _
  cases call with
  | failSubject stored ipHash error =>
    obtain ⟨entry, there, pos⟩ := bumped keys (.failure .subject stored.subjectHash) FAILURE_TTL_SECONDS
    obtain rfl : r = _ := by simpa [HumanCall.raises, HumanCall.turn, there] using mem
    exact ⟨entry.value, pos, by simp [HumanCall.turn, there]⟩
  | failAddress stored ipHash error =>
    obtain ⟨entry, there, pos⟩ := bumped keys (.failure .address ipHash) FAILURE_TTL_SECONDS
    obtain rfl : r = _ := by simpa [HumanCall.raises, HumanCall.turn, there] using mem
    exact ⟨entry.value, pos, by simp [HumanCall.turn, there]⟩
  | _ => cases mem

theorem standing_reach (run : Reach HumanRun.Allowed (HumanRun.apply security) .start s) :
    ∀ r ∈ s.raised, Standing s.keys r := by
  refine run.invariant (I := fun s => ∀ r ∈ s.raised, Standing s.keys r) (by simp [HumanRun.start])
    fun s op standing may r mem => ?_
  cases op with
  | tick ms => exact fun alive => standing r mem (Nat.le_trans (Nat.le_add_right _ _) alive)
  | issue | verify | consumeProof | recordLoginFailure | clearLoginFailures => exact standing r mem
  | turn place draw =>
    cases found : s.calls[place]? with
    | none =>
      simp only [HumanRun.apply, found] at mem ⊢
      exact standing r mem
    | some call =>
      simp only [HumanRun.apply, found] at mem ⊢
      rcases List.mem_append.mp mem with old | new
      · exact (standing r old).turn
      · exact raises_standing rfl new

end

/-! ## Earned and spent once -/

/-- The proof was stored for a challenge, as it had been issued, whose evaluation passed. -/
structure Earned (security : Security) (s : HumanRun) (proofToken : String) (e : Evaluation) : Prop where
  proved : (proofToken, e.token) ∈ s.proofs
  issued : (e.token, e.stored) ∈ s.stored
  evaluated : e ∈ s.evaluations
  passes : e.verdict security = .passes

theorem Books.earned_by (books : Books security s) {pair : String × String} (mem : pair ∈ s.proofs) :
    ∃ e, Earned security s pair.1 e := by
  obtain ⟨e, member, token, passes⟩ := books.earned pair mem
  exact ⟨e, token ▸ mem, books.known e member, member, passes⟩

theorem Books.spent_by (books : Books security s) {r : ConsumeRequest} (mem : r ∈ s.passed) :
    ∃ e, Earned security s r.proofToken e ∧ e.stored.purpose = r.purpose ∧
      e.stored.subjectHash = r.subjectHash ∧ e.stored.contextHash = r.ipHash := by
  obtain ⟨challengeToken, stored, proved, issued, same⟩ := books.spent r mem
  obtain ⟨e, member, token, passes⟩ := books.earned _ proved
  have challenge : (e.token, e.stored) = (challengeToken, stored) :=
    List.inj_on_of_nodup_map books.tokens (books.known e member) issued token
  have kept : e.stored = stored := congrArg Prod.snd challenge
  have fields : proofOf e.stored = ⟨r.purpose, r.subjectHash, r.ipHash⟩ := kept ▸ same
  simp only [proofOf, StoredProof.mk.injEq] at fields
  exact ⟨e, ⟨token ▸ proved, books.known e member, member, passes⟩, fields⟩

theorem later_issue_asks {r : Raise} {token : String} {stored : StoredChallenge} {place : Nat}
    (run : Reach HumanRun.Allowed (HumanRun.apply security) .start s) (mem : r ∈ s.raised)
    (later : Reach HumanRun.Allowed (HumanRun.apply security) s s') (alive : s'.keys.now ≤ r.expiresAt)
    (after : s.calls.length ≤ place) (here : s'.calls[place]? = some (.issued (some (token, stored))))
    (concerns : r.Concerns stored.subjectHash stored.contextHash) : stored.round ≠ none := by
  have warned : Warned r s.calls.length s' := by
    refine later.invariant ⟨standing_reach run r mem, fun _ place call past found => ?_⟩
      fun _ _ warned _ => warned.apply
    rw [List.getElem?_eq_none past] at found
    cases found
  exact warned.heeds alive place _ after here concerns

theorem proofs_spent_once (run : Reach HumanRun.Allowed (HumanRun.apply security) .start s) :
    (s.evaluations.map Evaluation.token).Nodup ∧ (s.proofs.map Prod.snd).Nodup ∧
    (s.passed.map ConsumeRequest.proofToken).Nodup ∧
    (∀ r ∈ s.passed, ∃ e, Earned security s r.proofToken e ∧ e.stored.purpose = r.purpose ∧
      e.stored.subjectHash = r.subjectHash ∧ e.stored.contextHash = r.ipHash) ∧
    (∀ proof ∈ s.proofs, ∃ e, Earned security s proof.1 e ∧ e.token = proof.2 ∧
      ∀ round, e.stored.round = some round → ∃ given, e.request.answer = some given ∧
        given.slot = round.target ∧ round.InTime (e.clock - e.stored.issuedAt) given) ∧
    (∀ e ∈ s.evaluations, e.WrongSlot security → ∃ error, Counting s e error) ∧
    ∀ r ∈ s.raised, ∀ s', Reach HumanRun.Allowed (HumanRun.apply security) s s' →
      s'.keys.now ≤ r.expiresAt → ∀ place token stored, s.calls.length ≤ place →
      s'.calls[place]? = some (.issued (some (token, stored))) →
      r.Concerns stored.subjectHash stored.contextHash → stored.round ≠ none := by
  have books := Books.reach run
  refine ⟨books.once, books.single, books.spentOnce, fun r mem => books.spent_by mem,
    fun proof mem => ?_, fun e mem wrong => ?_,
    fun r mem s' later alive place token stored => later_issue_asks run mem later alive⟩
  · obtain ⟨e, member, token, passes⟩ := books.earned proof mem
    exact ⟨e, ⟨token ▸ mem, books.known e member, member, passes⟩, token,
      fun round asked => judge_passes passes asked⟩
  · obtain ⟨error, fails⟩ := wrong.fails
    exact ⟨error, Counted.reach run e mem error fails⟩

instance (s : HumanRun) (op : HumanOp) : Decidable (s.Allowed op) := by
  cases op with
  | turn place draw =>
    simp only [HumanRun.Allowed]
    split <;> infer_instance
  | _ => exact isTrue trivial

def chargeIsSeven : Security := ⟨id, id, fun _ _ counter => counter == 7⟩

def turns (place count : Nat) (token : String) (clock : Int) : List HumanOp :=
  List.replicate count (.turn place ⟨token, 42, "", clock⟩)

/-- One proof is spent. A wrong charge makes the next challenge come with a round, which is answered with
the wrong slot. -/
def guesses : List HumanOp :=
  [.issue .signup "a" "i" .radio] ++ turns 0 4 "1" 0 ++ [.verify "1" 7 none "i"] ++ turns 1 3 "1" 100 ++
  [.consumeProof (some "1") .signup "a" "i"] ++ turns 2 2 "" 0 ++
  [.issue .signup "a" "i" .radio] ++ turns 3 4 "2" 0 ++ [.verify "2" 0 none "i"] ++ turns 4 4 "" 100 ++
  [.issue .signup "a" "i" .radio] ++ turns 5 5 "3" 0 ++
  [.verify "3" 7 (some ⟨1, none⟩) "i"] ++ turns 6 4 "" 9000

def guessed : HumanRun := guesses.foldl (HumanRun.apply chargeIsSeven) .start

theorem guessed_reach : Reach HumanRun.Allowed (HumanRun.apply chargeIsSeven) .start guessed :=
  Reach.of_list (by decide +kernel)

/-- The challenge that is asked for next, by the same address. -/
def asked : List HumanOp := [.issue .delete "b" "i" .switch] ++ turns 7 4 "4" 9000

theorem proofs_spent_once_guessed :
    (∃ e, Earned chargeIsSeven guessed "1" e ∧ e.stored.subjectHash = "a") ∧
    (∃ e ∈ guessed.evaluations, e.stored.round = some ⟨.radio, 42⟩ ∧ ∃ error, Counting guessed e error) ∧
    (challengeOf ⟨.delete, "b", "i", .switch⟩ 18 true ⟨"4", 42, "", 9000⟩).round ≠ none := by
  have facts := proofs_spent_once guessed_reach
  refine ⟨?_, ?_, ?_⟩
  · obtain ⟨e, earned, _, subject, _⟩ :=
      facts.2.2.2.1 ⟨"1", .signup, "a", "i"⟩ (by decide +kernel)
    exact ⟨e, earned, subject⟩
  · have wrong : (⟨6, ⟨"3", 7, some ⟨1, none⟩, "i"⟩, ⟨.signup, "a", "i", 0, "", 20, some ⟨.radio, 42⟩⟩,
        9000⟩ : Evaluation) ∈ guessed.evaluations := by decide +kernel
    refine ⟨_, wrong, rfl, facts.2.2.2.2.2.1 _ wrong ⟨⟨_, rfl, by decide +kernel⟩, ?_⟩⟩
    intro error
    have fails : Evaluation.verdict chargeIsSeven ⟨6, ⟨"3", 7, some ⟨1, none⟩, "i"⟩,
        ⟨.signup, "a", "i", 0, "", 20, some ⟨.radio, 42⟩⟩, 9000⟩ = .fails .wrong := by decide +kernel
    rw [fails]
    simp
  · exact facts.2.2.2.2.2.2 ⟨6, .address, "i", 1800000⟩ (by decide +kernel)
      (asked.foldl (HumanRun.apply chargeIsSeven) guessed) (Reach.of_list (by decide +kernel))
      (by decide +kernel) 7 "4" _ (by decide +kernel) (by rfl) rfl

end SwitchRemake.Auth.Human

import SwitchRemake.Auth.CodeOnce

/-!
# The bound on guesses

A wrong guess is compared in one turn and counted in a later one, and the counter of an address has a
lifetime of its own.
-/

namespace SwitchRemake.Auth
open Lib Redis

namespace CodeRun
variable {s s' : CodeRun} {op : CodeOp} {code : String}

/-- The codes that are stored, or that a release can still put back. -/
def claimable (s : CodeRun) : List String :=
  s.keys.saved.toList ++
    (s.taken.filter fun claim => s.keys.holder = some claim.claimId).map (·.code)

/-- The wrong guesses at a code that have been compared and not yet counted. -/
def pending (s : CodeRun) (code : String) : Nat := s.calls.count (.claimCount code)

def attempts (s : CodeRun) : Nat := s.keys.counted.getD 0

theorem mem_claimable : code ∈ s.claimable ↔ s.keys.saved = some code ∨
    ∃ claim ∈ s.taken, s.keys.holder = some claim.claimId ∧ claim.code = code := by
  simp [claimable, and_assoc]

/-! ## What a step does to the codes and to the counts -/

theorem claimable_move (after : s'.Books) (move : Move s s')
    (mem : code ∈ s'.claimable) : code ∈ s.claimable ∨ code ∉ s.issued := by
  rw [mem_claimable] at mem ⊢
  cases move with
  | quiet saved holder issued taken givenBack committed =>
    left
    rcases mem with stored | ⟨claim, known, held, same⟩
    · exact .inl (saved code stored)
    · exact .inr ⟨claim, taken ▸ known, holder _ held, same⟩
  | stores new fresh saved holder issued taken givenBack committed =>
    rcases mem with stored | ⟨claim, known, held, same⟩
    · obtain rfl : new = code := by simpa [saved] using stored
      exact .inr fresh
    · exact .inl (.inr ⟨claim, taken ▸ known, holder ▸ held, same⟩)
  | takes claim fresh stood saved holder issued taken givenBack committed =>
    left
    rcases mem with stored | ⟨other, known, held, same⟩
    · rw [saved] at stored
      cases stored
    · have ids : claim.claimId = other.claimId := by simpa [holder] using held
      obtain rfl := after.same_claim (taken ▸ List.mem_append_right _ (List.mem_singleton_self _)) known ids
      exact .inl (same ▸ stood)
  | givesBack claim known held saved holder issued taken givenBack committed =>
    left
    rcases mem with stored | ⟨other, _, now, _⟩
    · exact .inr ⟨claim, known, held, by simpa [saved] using stored⟩
    · rw [holder] at now
      cases now
  | commits claim known kept saved holder issued taken givenBack committed =>
    left
    rcases mem with stored | ⟨other, member, held, same⟩
    · exact .inl (saved ▸ stored)
    · exact .inr ⟨other, taken ▸ member, (holder _ held).1, same⟩

inductive Score (s s' : CodeRun) : Prop where
  | holds (wrong : s'.wrong = s.wrong)
      (score : ∀ code, s.attempts + s.pending code ≤ s'.attempts + s'.pending code)
  | misses (saved : String) (stored : s.keys.saved = some saved)
      (wrong : s'.wrong = s.wrong ++ [saved]) (attempts : s'.attempts = s.attempts)
      (pending : ∀ code, s.pending code ≤ s'.pending code)
      (more : s'.pending saved = s.pending saved + 1)
  | forgets (there : s.keys.counted ≠ none) (gone : s'.keys.counted = none)
      (wrong : s'.wrong = s.wrong)

theorem pending_send {place : Nat} {chosen : String} {call : CodeCall}
    (found : s.calls[place]? = some call) (code : String) :
    (s.send place chosen call).pending code =
      s.pending code - (if call = .claimCount code then 1 else 0) +
        (if (call.turn s.keys chosen).2 = .claimCount code then 1 else 0) := by
  obtain ⟨inside, rfl⟩ := List.getElem?_eq_some_iff.mp found
  simp [send, pending, List.count_set, inside]

/-- A turn that compares nothing and leaves the counter alone. -/
theorem send_holds {place : Nat} {chosen : String} {call : CodeCall}
    (found : s.calls[place]? = some call)
    (wrong : call.misses s.keys = []) (attempts : s.attempts ≤ (s.send place chosen call).attempts)
    (other : ∀ code, call ≠ .claimCount code) : Score s (s.send place chosen call) := by
  refine .holds (by simp [send, wrong]) fun code => ?_
  rw [pending_send found, if_neg (other code)]
  omega

theorem send_score {place : Nat} {chosen : String} {call : CodeCall}
    (found : s.calls[place]? = some call) : Score s (s.send place chosen call) := by
  cases call with
  | claimRead supplied =>
    cases there : s.keys.saved with
    | none =>
      exact send_holds found (by simp [CodeCall.misses, there])
        (by simp [attempts, send, CodeCall.turn, there]) (by simp)
    | some saved =>
      cases right : codeMatches saved supplied with
      | true =>
        exact send_holds found (by simp [CodeCall.misses, there, right])
          (by simp [attempts, send, CodeCall.turn, there]) (by simp)
      | false =>
        refine .misses saved there (by simp [send, CodeCall.misses, there, right])
          (by simp [attempts, send, CodeCall.turn, there]) (fun code => ?_) ?_
        · rw [pending_send found]
          simp
        · rw [pending_send found]
          simp [CodeCall.turn, there, right]
  | claimCount saved =>
    refine .holds (by simp [send, CodeCall.misses]) fun code => ?_
    rw [pending_send found]
    have counts : (s.send place chosen (.claimCount saved)).attempts = s.attempts + 1 := by
      simp [attempts, send, CodeCall.turn, CodeKeys.counted, incrementWithTtl, Cell.get_bump]
    split <;> omega
  | issueReset _ | commitReset =>
    cases there : s.keys.counted with
    | none => exact send_holds found rfl (by simp [attempts, there]) (by simp)
    | some n => exact .forgets (by simp [there]) rfl (by simp [send, CodeCall.misses])
  | issueRead =>
    exact send_holds found rfl (by simp only [attempts, send, CodeCall.turn]; split <;> simp) (by simp)
  | issueCooldown | issueMinute | issueHour | issueStore | issued | claimKill | claimTake | claimed
  | commitDelete | release | settled => exact send_holds found rfl (Nat.le_refl _) (by simp)

theorem begin_score (s : CodeRun) (call : CodeCall) : Score s (s.begin call) := by
  refine .holds rfl fun code => ?_
  simp [attempts, begin, pending]

theorem apply_score (s : CodeRun) (op : CodeOp) : Score s (s.apply op) := by
  cases op with
  | tick ms =>
    by_cases gone : (s.apply (.tick ms)).keys.counted = none
    · cases there : s.keys.counted with
      | none => exact .holds rfl fun code => by simp [attempts, there, pending, apply]
      | some n => exact .forgets (by simp [there]) gone rfl
    · obtain ⟨n, now⟩ := Option.ne_none_iff_exists'.mp gone
      have before : s.keys.counted = some n := Cell.get_of_later (Nat.le_add_right _ _) now
      refine .holds rfl fun code => ?_
      rw [attempts, attempts, before, now]
      exact Nat.le_refl _
  | turn place chosen =>
    simp only [apply]
    split
    · rename_i call found
      exact send_score found
    · exact .holds rfl fun _ => Nat.le_refl _
  | issue | claim | commit | release => exact begin_score s _

/-! ## The condition -/

/-- A wrong guess is compared while the guesses counted and those under way leave room for it. -/
def LeavesRoom (s : CodeRun) : CodeOp → Prop
  | .turn place _ => ∀ call ∈ s.calls[place]?, ∀ saved ∈ call.misses s.keys,
      s.attempts + s.pending saved < MAX_ATTEMPTS
  | _ => True

/-- The counter does not go while a guess it has counted was at a code that can still be claimed. -/
def Remembers (s s' : CodeRun) : Prop :=
  s.keys.counted ≠ none → s'.keys.counted = none →
    ∀ code ∈ s'.claimable, s'.wrong.count code ≤ s'.pending code

def Steady (s : CodeRun) (op : CodeOp) : Prop := s.LeavesRoom op ∧ s.Remembers (s.apply op)

instance (s : CodeRun) : ∀ op, Decidable (s.LeavesRoom op)
  | .turn place _ => inferInstanceAs (Decidable (∀ call ∈ s.calls[place]?,
      ∀ saved ∈ call.misses s.keys, s.attempts + s.pending saved < MAX_ATTEMPTS))
  | .tick _ | .issue | .claim _ | .commit _ | .release _ => isTrue trivial

instance (s s' : CodeRun) : Decidable (s.Remembers s') := inferInstanceAs (Decidable (_ → _ → _))

instance (s : CodeRun) (op : CodeOp) : Decidable (s.Steady op) :=
  inferInstanceAs (Decidable (_ ∧ _))

structure Tally (s : CodeRun) : Prop where
  known : ∀ code ∈ s.wrong, code ∈ s.issued
  bound : ∀ code, s.wrong.count code ≤ MAX_ATTEMPTS
  counted : ∀ code ∈ s.claimable, s.wrong.count code ≤ s.attempts + s.pending code

theorem issued_grows (s : CodeRun) (op : CodeOp) (old : code ∈ s.issued) :
    code ∈ (s.apply op).issued := by
  cases op with
  | turn place chosen =>
    simp only [apply]
    split
    · exact List.mem_append_left _ old
    · exact old
  | _ => exact old

theorem leavesRoom_misses (room : s.LeavesRoom op) {saved : String}
    (wrong : (s.apply op).wrong = s.wrong ++ [saved]) : s.attempts + s.pending saved < MAX_ATTEMPTS := by
  cases op with
  | turn place chosen =>
    simp only [apply] at wrong
    split at wrong
    · rename_i call found
      exact room call found saved (by simp [List.append_cancel_left wrong])
    · simp at wrong
  | _ => simp [apply, begin] at wrong

theorem Tally.step (tally : s.Tally) (books : s.Books) (may : s.Allowed op) (steady : s.Steady op) :
    (s.apply op).Tally := by
  have after := books.apply may
  have old : ∀ code ∈ (s.apply op).claimable, s.wrong.count code ≤ s.attempts + s.pending code := by
    intro code mem
    rcases claimable_move after (apply_move books.handed may) mem with before | fresh
    · exact tally.counted code before
    · rw [List.count_eq_zero_of_not_mem fun guessed => fresh (tally.known code guessed)]
      exact Nat.zero_le _
  cases apply_score s op with
  | holds wrong score =>
    refine ⟨fun code guessed => issued_grows s op (tally.known code (wrong ▸ guessed)),
      wrong ▸ tally.bound, fun code mem => ?_⟩
    rw [wrong]
    exact Nat.le_trans (old code mem) (score code)
  | forgets there gone wrong =>
    refine ⟨fun code guessed => issued_grows s op (tally.known code (wrong ▸ guessed)),
      wrong ▸ tally.bound, fun code mem => ?_⟩
    exact Nat.le_trans (steady.2 there gone code mem) (Nat.le_add_left _ _)
  | misses saved stored wrong attempts pending more =>
    have room := leavesRoom_misses steady.1 wrong
    have counted := tally.counted saved (mem_claimable.mpr (.inl stored))
    refine ⟨fun code guessed => ?_, fun code => ?_, fun code mem => ?_⟩
    · rw [wrong] at guessed
      rcases List.mem_append.mp guessed with before | now
      · exact issued_grows s op (tally.known code before)
      · rw [List.mem_singleton.mp now]
        exact issued_grows s op (books.stored saved stored).1
    · rw [wrong, List.count_append, List.count_singleton]
      have bound := tally.bound code
      by_cases same : saved = code
      · subst same
        simp only [beq_self_eq_true, if_true]
        omega
      · simpa [same] using bound
    · rw [wrong, List.count_append, List.count_singleton, attempts]
      have before := old code mem
      have least := pending code
      by_cases same : saved = code
      · subst same
        simp only [beq_self_eq_true, if_true]
        omega
      · simp only [beq_iff_eq, same, if_false]
        omega

theorem start_tally : start.Tally where
  known := by simp [start]
  bound := by simp [start]
  counted := by simp [start]

/-- Where each wrong guess finds room and the counter is never lost under a code that can still be
claimed, a code is compared with at most `MAX_ATTEMPTS` wrong guesses. -/
theorem guesses_bounded {s : CodeRun}
    (run : Reach (fun s op => s.Allowed op ∧ s.Steady op) apply start s) (code : String) :
    s.wrong.count code ≤ MAX_ATTEMPTS := by
  have both := run.invariant (I := fun s => s.Books ∧ s.Tally) ⟨Books.start, start_tally⟩
    fun _ _ holds may => ⟨holds.1.apply may.1, holds.2.step holds.1 may.1 may.2⟩
  exact both.2.bound code

/-- A call with a wrong guess, from its read to the end. -/
def guessOps (place : Nat) : List CodeOp :=
  .claim "000000" :: List.replicate 3 (.turn place "")

/-- Four wrong guesses, a claim that is given back, and the fifth. -/
def patientOps : List CodeOp :=
  issueOps 0 "100000" ++ guessOps 1 ++ guessOps 2 ++ guessOps 3 ++ guessOps 4 ++
    [.claim "100000", .turn 5 "", .turn 5 "a", .release ⟨"100000", "a", 300000⟩, .turn 6 ""] ++
    guessOps 7

theorem patient_guesses_bounded :
    Reach (fun s op => s.Allowed op ∧ s.Steady op) apply start (patientOps.foldl apply start) ∧
      (patientOps.foldl apply start).wrong.count "100000" ≤ MAX_ATTEMPTS := by
  have run : Reach (fun s op => s.Allowed op ∧ s.Steady op) apply start
      (patientOps.foldl apply start) := Reach.of_list (by decide +kernel)
  exact ⟨run, guesses_bounded run "100000"⟩

/-- Six calls read the code before the first of them counts. -/
def burstOps : List CodeOp :=
  issueOps 0 "100000" ++ List.replicate 6 (.claim "000000") ++
    [1, 2, 3, 4, 5, 6].map fun place => .turn place ""

theorem burst_exceeds :
    AllowedRun Allowed apply start burstOps ∧
      ¬ (burstOps.foldl apply start).wrong.count "100000" ≤ MAX_ATTEMPTS := by
  decide +kernel

end CodeRun
end SwitchRemake.Auth

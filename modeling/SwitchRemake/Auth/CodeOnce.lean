import SwitchRemake.Auth.VerificationCode
import Mathlib.Data.List.Basic
import Mathlib.Data.List.Nodup

/-!
# A code is used once

While a code is borrowed its key is empty, so another may be stored there before the claim comes
back.
-/

namespace SwitchRemake.Auth
open Lib Redis

/-! ## What a step does to the two keys -/

inductive Move (s s' : CodeRun) : Prop where
  | quiet (saved : ∀ code, s'.keys.saved = some code → s.keys.saved = some code)
      (holder : ∀ id, s'.keys.holder = some id → s.keys.holder = some id)
      (issued : s'.issued = s.issued) (taken : s'.taken = s.taken)
      (givenBack : s'.givenBack = s.givenBack) (committed : s'.committed = s.committed)
  | stores (code : String) (fresh : code ∉ s.issued) (saved : s'.keys.saved = some code)
      (holder : s'.keys.holder = s.keys.holder)
      (issued : s'.issued = s.issued ++ [code]) (taken : s'.taken = s.taken)
      (givenBack : s'.givenBack = s.givenBack) (committed : s'.committed = s.committed)
  | takes (claim : VerificationCodeClaim) (fresh : claim.claimId ∉ s.taken.map (·.claimId))
      (stood : s.keys.saved = some claim.code) (saved : s'.keys.saved = none)
      (holder : s'.keys.holder = some claim.claimId)
      (issued : s'.issued = s.issued) (taken : s'.taken = s.taken ++ [claim])
      (givenBack : s'.givenBack = s.givenBack) (committed : s'.committed = s.committed)
  | givesBack (claim : VerificationCodeClaim) (known : claim ∈ s.taken)
      (held : s.keys.holder = some claim.claimId) (saved : s'.keys.saved = some claim.code)
      (holder : s'.keys.holder = none)
      (issued : s'.issued = s.issued) (taken : s'.taken = s.taken)
      (givenBack : s'.givenBack = s.givenBack ++ [claim.claimId])
      (committed : s'.committed = s.committed)
  | commits (claim : VerificationCodeClaim) (known : claim ∈ s.taken)
      (kept : claim.claimId ∉ s.givenBack) (saved : s'.keys.saved = s.keys.saved)
      (holder : ∀ id, s'.keys.holder = some id → s.keys.holder = some id ∧ id ≠ claim.claimId)
      (issued : s'.issued = s.issued) (taken : s'.taken = s.taken)
      (givenBack : s'.givenBack = s.givenBack)
      (committed : s'.committed = s.committed ++ [claim.claimId])

namespace CodeCall

def claims : CodeCall → List VerificationCodeClaim
  | .claimed claim => claim.toList
  | .commitDelete claim => [claim]
  | .release claim => [claim]
  | _ => []

end CodeCall

namespace CodeRun

/-- The claims that are in some caller's hands have been taken. -/
def Handed (s : CodeRun) : Prop := ∀ call ∈ s.calls, ∀ claim ∈ call.claims, claim ∈ s.taken

theorem saved_tick {keys : CodeKeys} {ms : Nat} {code : String}
    (there : CodeKeys.saved { keys with now := keys.now + ms } = some code) :
    keys.saved = some code :=
  Cell.get_of_later (Nat.le_add_right _ _) there

theorem holder_tick {keys : CodeKeys} {ms : Nat} {id : String}
    (there : CodeKeys.holder { keys with now := keys.now + ms } = some id) :
    keys.holder = some id :=
  Cell.get_of_later (Nat.le_add_right _ _) there

theorem take_cases (keys : CodeKeys) (saved chosen : String) :
    (keys.holder = none ∧ keys.saved = some saved ∧
      compareAndClaim keys.now keys.code saved keys.claim chosen CLAIM_TTL_SECONDS =
        (((keys.code.remaining keys.now : Nat) : Int), none,
          Cell.put keys.now (CLAIM_TTL_SECONDS * 1000) chosen)) ∨
    ∃ refusal < 0,
      compareAndClaim keys.now keys.code saved keys.claim chosen CLAIM_TTL_SECONDS =
        (refusal, keys.code, keys.claim) := by
  unfold compareAndClaim
  by_cases busy : (keys.claim.get keys.now).isSome
  · exact .inr ⟨-2, by decide, by simp [busy]⟩
  · by_cases same : keys.code.get keys.now = some saved
    · left
      simp only [Option.not_isSome_iff_eq_none] at busy
      exact ⟨busy, same, by simp [busy, same]⟩
    · exact .inr ⟨-1, by decide, by simp [busy, same]⟩

theorem release_cases (keys : CodeKeys) (claim : VerificationCodeClaim) :
    (keys.holder = some claim.claimId ∧
      releaseClaim keys.now keys.claim claim.claimId keys.code claim.code claim.remainingTtlMs =
        (true, none, Cell.put keys.now (max 1 claim.remainingTtlMs) claim.code)) ∨
    (keys.holder ≠ some claim.claimId ∧
      releaseClaim keys.now keys.claim claim.claimId keys.code claim.code claim.remainingTtlMs =
        (false, keys.claim, keys.code)) := by
  unfold releaseClaim
  by_cases held : keys.claim.get keys.now = some claim.claimId
  · exact .inl ⟨held, by simp [held]⟩
  · exact .inr ⟨held, by simp [held]⟩

theorem begin_move (s : CodeRun) (call : CodeCall) : Move s (s.begin call) :=
  .quiet (fun _ h => h) (fun _ h => h) rfl rfl rfl rfl

/-- A turn that neither stores nor takes nor gives back nor commits leaves the two keys alone, up to
the last wrong guess. -/
theorem send_quiet {s : CodeRun} {place : Nat} {chosen : String} {call : CodeCall}
    (saved : ∀ code, (call.turn s.keys chosen).1.saved = some code → s.keys.saved = some code)
    (holder : (call.turn s.keys chosen).1.holder = s.keys.holder)
    (issues : call.issues chosen = []) (takes : call.takes s.keys chosen = [])
    (givesBack : call.givesBack s.keys = []) (commits : call.commits = []) :
    Move s (s.send place chosen call) :=
  .quiet saved (fun _ there => by rw [← holder]; exact there) (by simp [send, issues])
    (by simp [send, takes]) (by simp [send, givesBack]) (by simp [send, commits])

theorem send_move {s : CodeRun} {place : Nat} {chosen : String} {call : CodeCall}
    (handed : ∀ claim ∈ call.claims, claim ∈ s.taken) (draws : s.Draws chosen call) :
    Move s (s.send place chosen call) := by
  cases call with
  | issueStore =>
    exact .stores chosen draws Cell.get_put rfl rfl (List.append_nil _) (List.append_nil _)
      (List.append_nil _)
  | claimTake saved =>
    rcases take_cases s.keys saved chosen with ⟨free, same, took⟩ | ⟨refusal, negative, refused⟩
    · refine .takes ⟨saved, chosen, s.keys.code.remaining s.keys.now⟩ draws same ?_ ?_
        (List.append_nil _) ?_ (List.append_nil _) (List.append_nil _)
      · simp [send, CodeCall.turn, took, CodeKeys.saved]
      · simp [send, CodeCall.turn, took, CodeKeys.holder]
      · simp [send, CodeCall.takes, took]
    · have none_taken : (CodeCall.claimTake saved).takes s.keys chosen = [] := by
        simp only [CodeCall.takes, refused]
        exact if_neg (by omega)
      refine send_quiet ?_ ?_ rfl none_taken rfl rfl
      · simp [CodeCall.turn, refused, CodeKeys.saved]
      · simp [CodeCall.turn, refused, CodeKeys.holder]
  | release claim =>
    rcases release_cases s.keys claim with ⟨held, released⟩ | ⟨free, refused⟩
    · refine .givesBack claim (handed claim (by simp [CodeCall.claims])) held ?_ ?_
        (List.append_nil _) (List.append_nil _) ?_ (List.append_nil _)
      · simp [send, CodeCall.turn, released, CodeKeys.saved]
      · simp [send, CodeCall.turn, released, CodeKeys.holder]
      · simp [send, CodeCall.givesBack, released]
    · refine send_quiet ?_ ?_ rfl rfl ?_ rfl
      · simp [CodeCall.turn, refused, CodeKeys.saved]
      · simp [CodeCall.turn, refused, CodeKeys.holder]
      · simp [CodeCall.givesBack, refused]
  | commitDelete claim =>
    refine .commits claim (handed claim (by simp [CodeCall.claims])) draws rfl ?_
      (List.append_nil _) (List.append_nil _) (List.append_nil _) rfl
    intro id there
    by_cases held : s.keys.claim.get s.keys.now = some claim.claimId
    · simp [send, CodeCall.turn, compareAndDelete, held, CodeKeys.holder] at there
    · have same : s.keys.holder = some id := by
        simpa [send, CodeCall.turn, compareAndDelete, held, CodeKeys.holder] using there
      refine ⟨same, ?_⟩
      rintro rfl
      exact held same
  | issueRead =>
    refine send_quiet ?_ ?_ rfl rfl rfl rfl <;> simp only [CodeCall.turn] <;> split <;> simp
  | claimRead supplied =>
    refine send_quiet ?_ ?_ rfl rfl rfl rfl <;> simp only [CodeCall.turn] <;> split <;> simp
  | claimKill => exact send_quiet (by simp [CodeCall.turn, CodeKeys.saved]) rfl rfl rfl rfl rfl
  | issueCooldown | issueMinute | issueHour | issueReset | issued | claimCount | claimed
  | commitReset | settled => exact send_quiet (fun _ there => there) rfl rfl rfl rfl rfl

theorem apply_move {s : CodeRun} {op : CodeOp} (handed : s.Handed) (may : s.Allowed op) :
    Move s (s.apply op) := by
  cases op with
  | tick ms => exact .quiet (fun _ => saved_tick) (fun _ => holder_tick) rfl rfl rfl rfl
  | issue => exact begin_move s _
  | claim supplied => exact begin_move s _
  | commit claim => exact begin_move s _
  | release claim => exact begin_move s _
  | turn place chosen =>
    simp only [apply]
    split
    · rename_i call found
      exact send_move (handed call (List.mem_of_getElem? found)) (may call found)
    · exact .quiet (fun _ h => h) (fun _ h => h) rfl rfl rfl rfl

/-! ## The claims in the callers' hands -/

theorem turn_claims {keys : CodeKeys} {chosen : String} {call : CodeCall}
    {claim : VerificationCodeClaim} (mem : claim ∈ (call.turn keys chosen).2.claims) :
    claim ∈ call.claims ∨ claim ∈ call.takes keys chosen := by
  cases call with
  | claimTake saved =>
    right
    simp only [CodeCall.turn] at mem
    split at mem
    · cases mem
    · simp only [CodeCall.claims, Option.toList_some, List.mem_singleton] at mem
      rename_i positive
      simp only [CodeCall.takes]
      rw [if_pos (by omega), mem]
      exact List.mem_singleton_self _
  | claimed answer => exact .inl mem
  | claimRead supplied =>
    simp only [CodeCall.turn] at mem
    cases there : keys.saved with
    | none => simp [there, CodeCall.claims] at mem
    | some saved =>
      cases right : codeMatches saved supplied <;> simp [there, right, CodeCall.claims] at mem
  | issueRead | issueCooldown | issueHour | claimCount =>
    simp only [CodeCall.turn] at mem
    split at mem <;> simp [CodeCall.claims] at mem
  | issueMinute | issueStore | issueReset | issued | claimKill | commitDelete | commitReset
  | release | settled => simp [CodeCall.turn, CodeCall.claims] at mem

theorem handed_begin {s : CodeRun} {call : CodeCall} (handed : s.Handed)
    (known : ∀ claim ∈ call.claims, claim ∈ s.taken) : (s.begin call).Handed := by
  intro other mem claim has
  rcases List.mem_append.mp mem with old | new
  · exact handed other old claim has
  · rw [List.mem_singleton.mp new] at has
    exact known claim has

theorem handed_apply {s : CodeRun} {op : CodeOp} (handed : s.Handed) (may : s.Allowed op) :
    (s.apply op).Handed := by
  cases op with
  | tick ms => exact handed
  | issue => exact handed_begin handed (by simp [CodeCall.claims])
  | claim supplied => exact handed_begin handed (by simp [CodeCall.claims])
  | commit claim =>
    refine handed_begin handed fun other mem => ?_
    rw [List.mem_singleton.mp mem]
    exact handed _ may claim (by simp [CodeCall.claims])
  | release claim =>
    refine handed_begin handed fun other mem => ?_
    rw [List.mem_singleton.mp mem]
    exact handed _ may claim (by simp [CodeCall.claims])
  | turn place chosen =>
    simp only [apply]
    split
    · rename_i call found
      intro other mem claim has
      rcases List.mem_or_eq_of_mem_set mem with old | rfl
      · exact List.mem_append_left _ (handed other old claim has)
      · rcases turn_claims has with own | took
        · exact List.mem_append_left _ (handed call (List.mem_of_getElem? found) claim own)
        · exact List.mem_append_right _ took
    · exact handed

/-! ## The invariant -/

/-- The claim is not given back: it is in use, or committed, or it has run out. -/
def Out (s : CodeRun) (claim : VerificationCodeClaim) : Prop :=
  claim ∈ s.taken ∧ claim.claimId ∉ s.givenBack

structure Books (s : CodeRun) : Prop where
  handed : s.Handed
  codes : s.issued.Nodup
  ids : (s.taken.map (·.claimId)).Nodup
  known : ∀ claim ∈ s.taken, claim.code ∈ s.issued
  back : ∀ id ∈ s.givenBack, id ∈ s.taken.map (·.claimId)
  /-- A stored code is in nobody's hands. -/
  stored : ∀ code, s.keys.saved = some code →
    code ∈ s.issued ∧ ∀ claim, s.Out claim → claim.code ≠ code
  /-- What is stored beside a claim was issued after its code. -/
  held : ∀ id, s.keys.holder = some id → ∃ claim, s.Out claim ∧ claim.claimId = id ∧
    id ∉ s.committed ∧
    ∀ code, s.keys.saved = some code → s.issued.idxOf claim.code < s.issued.idxOf code
  single : ∀ first, s.Out first → ∀ second, s.Out second → first.code = second.code →
    first = second
  committed : ∀ id ∈ s.committed, ∃ claim, s.Out claim ∧ claim.claimId = id
  last : ∀ before claim after, s.taken = before ++ claim :: after →
    claim.claimId ∉ s.givenBack → ∀ later ∈ after, later.code ≠ claim.code

namespace Books
variable {s s' : CodeRun}

theorem same_claim (books : s.Books) {first second : VerificationCodeClaim} (left : first ∈ s.taken)
    (right : second ∈ s.taken) (same : first.claimId = second.claimId) : first = second :=
  List.inj_on_of_nodup_map books.ids left right same

/-- Nothing is issued, taken, given back or committed. -/
theorem quiet (books : s.Books) (handed : s'.Handed)
    (saved : ∀ code, s'.keys.saved = some code → s.keys.saved = some code)
    (holder : ∀ id, s'.keys.holder = some id → s.keys.holder = some id)
    (issued : s'.issued = s.issued) (taken : s'.taken = s.taken)
    (givenBack : s'.givenBack = s.givenBack) (committed : s'.committed = s.committed) :
    s'.Books where
  handed := handed
  codes := issued ▸ books.codes
  ids := taken ▸ books.ids
  known := by simpa only [taken, issued] using books.known
  back := by simpa only [taken, givenBack] using books.back
  stored code there := by
    simpa only [Out, issued, taken, givenBack] using books.stored code (saved code there)
  held id there := by
    obtain ⟨claim, out, same, kept, later⟩ := books.held id (holder id there)
    refine ⟨claim, ?_, same, by rwa [committed], fun code now => ?_⟩
    · simpa only [Out, taken, givenBack] using out
    · rw [issued]
      exact later code (saved code now)
  single := by simpa only [Out, taken, givenBack] using books.single
  committed := by simpa only [Out, taken, givenBack, committed] using books.committed
  last := by simpa only [taken, givenBack] using books.last

theorem stores (books : s.Books) (handed : s'.Handed) {code : String} (fresh : code ∉ s.issued)
    (saved : s'.keys.saved = some code) (holder : s'.keys.holder = s.keys.holder)
    (issued : s'.issued = s.issued ++ [code]) (taken : s'.taken = s.taken)
    (givenBack : s'.givenBack = s.givenBack) (committed : s'.committed = s.committed) :
    s'.Books where
  handed := handed
  codes := by simpa [issued, List.nodup_append] using ⟨books.codes, fun a mem same => fresh (same ▸ mem)⟩
  ids := taken ▸ books.ids
  known claim mem := by
    rw [issued]
    exact List.mem_append_left _ (books.known claim (taken ▸ mem))
  back := by simpa only [taken, givenBack] using books.back
  stored other there := by
    obtain rfl : code = other := by simpa [saved] using there
    refine ⟨by simp [issued], ?_⟩
    rintro claim ⟨mem, -⟩ rfl
    exact fresh (books.known claim (taken ▸ mem))
  held id there := by
    obtain ⟨claim, out, same, kept, -⟩ := books.held id (holder ▸ there)
    refine ⟨claim, by simpa only [Out, taken, givenBack] using out, same, by rwa [committed], ?_⟩
    intro other now
    obtain rfl : code = other := by simpa [saved] using now
    have old := books.known claim out.1
    rw [issued, List.idxOf_append_of_mem old, List.idxOf_append_of_notMem fresh]
    have := List.idxOf_lt_length_of_mem old
    omega
  single := by simpa only [Out, taken, givenBack] using books.single
  committed := by simpa only [Out, taken, givenBack, committed] using books.committed
  last := by simpa only [taken, givenBack] using books.last

theorem takes (books : s.Books) (handed : s'.Handed) {claim : VerificationCodeClaim}
    (fresh : claim.claimId ∉ s.taken.map (·.claimId)) (stood : s.keys.saved = some claim.code)
    (saved : s'.keys.saved = none) (holder : s'.keys.holder = some claim.claimId)
    (issued : s'.issued = s.issued) (taken : s'.taken = s.taken ++ [claim])
    (givenBack : s'.givenBack = s.givenBack) (committed : s'.committed = s.committed) :
    s'.Books := by
  obtain ⟨old, free⟩ := books.stored _ stood
  have kept : claim.claimId ∉ s.givenBack := fun mem => fresh (books.back _ mem)
  have uncommitted : claim.claimId ∉ s.committed := by
    intro mem
    obtain ⟨other, out, same⟩ := books.committed _ mem
    exact fresh (same ▸ List.mem_map_of_mem out.1)
  have out_iff : ∀ other, s'.Out other ↔ s.Out other ∨ other = claim := by
    intro other
    simp only [Out, taken, givenBack, List.mem_append, List.mem_singleton]
    constructor
    · rintro ⟨mem | rfl, not⟩
      · exact .inl ⟨mem, not⟩
      · exact .inr rfl
    · rintro (⟨mem, not⟩ | rfl)
      · exact ⟨.inl mem, not⟩
      · exact ⟨.inr rfl, kept⟩
  refine ⟨handed, issued ▸ books.codes, ?_, ?_, ?_, ?_, ?_, ?_, ?_, ?_⟩
  · rw [taken, List.map_append, List.nodup_append]
    exact ⟨books.ids, List.nodup_singleton _, fun id mem other now same =>
      fresh (by simp only [List.map_cons, List.map_nil, List.mem_singleton] at now; exact now ▸ same ▸ mem)⟩
  · intro other mem
    rw [taken] at mem
    rw [issued]
    rcases List.mem_append.mp mem with before | now
    · exact books.known other before
    · exact List.mem_singleton.mp now ▸ old
  · intro id mem
    rw [taken, List.map_append]
    exact List.mem_append_left _ (books.back id (givenBack ▸ mem))
  · simp [saved]
  · intro id there
    obtain rfl : claim.claimId = id := by simpa [holder] using there
    exact ⟨claim, (out_iff claim).mpr (.inr rfl), rfl, by rwa [committed], by simp [saved]⟩
  · intro first left second right same
    rcases (out_iff first).mp left with left | rfl <;> rcases (out_iff second).mp right with right | rfl
    · exact books.single first left second right same
    · exact absurd same (free first left)
    · exact absurd same.symm (free second right)
    · rfl
  · intro id mem
    obtain ⟨other, out, same⟩ := books.committed id (committed ▸ mem)
    exact ⟨other, (out_iff other).mpr (.inl out), same⟩
  · intro before earlier after split not later now
    rw [taken] at split
    rw [givenBack] at not
    rcases List.eq_nil_or_concat after with rfl | ⟨rest, final, rfl⟩
    · cases now
    · rw [List.concat_eq_append] at now split
      obtain ⟨front, same⟩ : s.taken = before ++ earlier :: rest ∧ [claim] = [final] :=
        List.append_inj' (by rw [split]; simp) rfl
      rcases List.mem_append.mp now with mem | now
      · exact books.last before earlier rest front not later mem
      · obtain rfl : later = claim := by simp_all
        exact fun eq => free earlier ⟨front ▸ by simp, not⟩ eq.symm

theorem givesBack (books : s.Books) (handed : s'.Handed) {claim : VerificationCodeClaim}
    (known : claim ∈ s.taken) (held : s.keys.holder = some claim.claimId)
    (saved : s'.keys.saved = some claim.code) (holder : s'.keys.holder = none)
    (issued : s'.issued = s.issued) (taken : s'.taken = s.taken)
    (givenBack : s'.givenBack = s.givenBack ++ [claim.claimId])
    (committed : s'.committed = s.committed) : s'.Books := by
  obtain ⟨owner, own, same, uncommitted, -⟩ := books.held _ held
  obtain rfl := books.same_claim own.1 known same
  have out_iff : ∀ other, s'.Out other ↔ s.Out other ∧ other ≠ owner := by
    intro other
    simp only [Out, taken, givenBack, List.mem_append, List.mem_singleton, not_or, and_assoc]
    refine and_congr_right fun mem => and_congr_right fun _ => not_congr ⟨?_, ?_⟩
    · exact books.same_claim mem known
    · rintro rfl
      rfl
  refine ⟨handed, issued ▸ books.codes, taken ▸ books.ids, ?_, ?_, ?_, ?_, ?_, ?_, ?_⟩
  · simpa only [taken, issued] using books.known
  · intro id mem
    rw [givenBack] at mem
    rw [taken]
    rcases List.mem_append.mp mem with before | now
    · exact books.back id before
    · exact List.mem_singleton.mp now ▸ List.mem_map_of_mem known
  · intro code there
    obtain rfl : owner.code = code := by simpa [saved] using there
    refine ⟨issued ▸ books.known owner known, fun other out same => ?_⟩
    obtain ⟨out, different⟩ := (out_iff other).mp out
    exact different (books.single other out owner own same)
  · simp [holder]
  · intro first left second right same
    exact books.single first ((out_iff first).mp left).1 second ((out_iff second).mp right).1 same
  · intro id mem
    rw [committed] at mem
    obtain ⟨other, out, rfl⟩ := books.committed id mem
    refine ⟨other, (out_iff other).mpr ⟨out, ?_⟩, rfl⟩
    rintro rfl
    exact uncommitted mem
  · intro before earlier after split not later now
    rw [givenBack] at not
    exact books.last before earlier after (taken ▸ split)
      (fun mem => not (List.mem_append_left _ mem)) later now

theorem commits (books : s.Books) (handed : s'.Handed) {claim : VerificationCodeClaim}
    (known : claim ∈ s.taken) (kept : claim.claimId ∉ s.givenBack)
    (saved : s'.keys.saved = s.keys.saved)
    (holder : ∀ id, s'.keys.holder = some id → s.keys.holder = some id ∧ id ≠ claim.claimId)
    (issued : s'.issued = s.issued) (taken : s'.taken = s.taken)
    (givenBack : s'.givenBack = s.givenBack)
    (committed : s'.committed = s.committed ++ [claim.claimId]) : s'.Books where
  handed := handed
  codes := issued ▸ books.codes
  ids := taken ▸ books.ids
  known := by simpa only [taken, issued] using books.known
  back := by simpa only [taken, givenBack] using books.back
  stored := by simpa only [saved, Out, issued, taken, givenBack] using books.stored
  held id there := by
    obtain ⟨there, other⟩ := holder id there
    obtain ⟨owner, out, same, uncommitted, later⟩ := books.held id there
    refine ⟨owner, ?_, same, by simp [committed, uncommitted, other], ?_⟩
    · simpa only [Out, taken, givenBack] using out
    · simpa only [saved, issued] using later
  single := by simpa only [Out, taken, givenBack] using books.single
  committed id mem := by
    rw [committed] at mem
    simp only [Out, taken, givenBack]
    rcases List.mem_append.mp mem with before | now
    · exact books.committed id before
    · exact ⟨claim, ⟨known, kept⟩, (List.mem_singleton.mp now).symm⟩
  last := by simpa only [taken, givenBack] using books.last

theorem step (books : s.Books) (move : Move s s') (handed : s'.Handed) : s'.Books := by
  cases move with
  | quiet saved holder issued taken givenBack committed =>
    exact books.quiet handed saved holder issued taken givenBack committed
  | stores code fresh saved holder issued taken givenBack committed =>
    exact books.stores handed fresh saved holder issued taken givenBack committed
  | takes claim fresh stood saved holder issued taken givenBack committed =>
    exact books.takes handed fresh stood saved holder issued taken givenBack committed
  | givesBack claim known held saved holder issued taken givenBack committed =>
    exact books.givesBack handed known held saved holder issued taken givenBack committed
  | commits claim known kept saved holder issued taken givenBack committed =>
    exact books.commits handed known kept saved holder issued taken givenBack committed

theorem start : CodeRun.start.Books where
  handed := by simp [Handed, CodeRun.start]
  codes := List.nodup_nil
  ids := List.nodup_nil
  known := by simp [CodeRun.start]
  back := by simp [CodeRun.start]
  stored := by simp [CodeRun.start, CodeKeys.saved]
  held := by simp [CodeRun.start, CodeKeys.holder]
  single := by simp [Out, CodeRun.start]
  committed := by simp [CodeRun.start]
  last := by simp [CodeRun.start]

theorem apply {op : CodeOp} (books : s.Books) (may : s.Allowed op) : (s.apply op).Books :=
  books.step (apply_move books.handed may) (handed_apply books.handed may)

end Books

/-! ## Releases over a later code -/

theorem displaces_of_not_release {keys after : CodeKeys} {issued : List String} {call : CodeCall}
    (other : ∀ claim, call ≠ .release claim) : call.displaces keys after issued = [] := by
  cases call with
  | release claim => exact absurd rfl (other claim)
  | _ => rfl

end CodeRun

/-- A release of a claim that is still held finds no code in the code's key. -/
def CodeCall.FindsEmpty (keys : CodeKeys) : CodeCall → Prop
  | .release claim => keys.holder = some claim.claimId → keys.saved = none
  | _ => True

namespace CodeRun
variable {s : CodeRun}

instance (keys : CodeKeys) : ∀ call : CodeCall, Decidable (call.FindsEmpty keys)
  | .release _ => inferInstanceAs (Decidable (_ → _))
  | .issueRead | .issueCooldown | .issueMinute | .issueHour _ | .issueStore | .issueReset _
  | .issued _ | .claimRead _ | .claimCount _ | .claimKill | .claimTake _ | .claimed _
  | .commitDelete _ | .commitReset | .settled => isTrue trivial

def FindsEmpty (s : CodeRun) : CodeOp → Prop
  | .turn place _ => ∀ call ∈ s.calls[place]?, call.FindsEmpty s.keys
  | _ => True

instance (s : CodeRun) : ∀ op, Decidable (s.FindsEmpty op)
  | .turn place _ => inferInstanceAs (Decidable (∀ call ∈ s.calls[place]?, call.FindsEmpty s.keys))
  | .tick _ | .issue | .claim _ | .commit _ | .release _ => isTrue trivial

theorem release_displaces {place : Nat} {chosen : String} {claim : VerificationCodeClaim}
    (books : s.Books) (known : claim ∈ s.taken) :
    (s.send place chosen (.release claim)).displaced = s.displaced ↔
      CodeCall.FindsEmpty s.keys (.release claim) := by
  simp only [send, CodeCall.displaces, CodeCall.FindsEmpty, List.append_right_eq_self]
  rcases release_cases s.keys claim with ⟨held, released⟩ | ⟨free, refused⟩
  · obtain ⟨owner, out, same, -, later⟩ := books.held _ held
    obtain rfl := books.same_claim out.1 known same
    cases there : s.keys.saved with
    | none => simp
    | some code =>
      have after := later code there
      have different : owner.code ≠ code := by
        rintro rfl
        exact Nat.lt_irrefl _ after
      simp [held, CodeCall.turn, released, CodeKeys.saved, CodeCall.issues, after, different]
  · cases there : s.keys.saved with
    | none => simp
    | some code =>
      have stays : (CodeCall.turn s.keys chosen (.release claim)).1.saved = some code := by
        simpa [CodeCall.turn, refused, CodeKeys.saved] using there
      simp [free, stays]

theorem displaced_iff {op : CodeOp} (books : s.Books) :
    (s.apply op).displaced = s.displaced ↔ s.FindsEmpty op := by
  cases op with
  | turn place chosen =>
    simp only [apply, FindsEmpty]
    cases found : s.calls[place]? with
    | none => simp
    | some call =>
      have mem := List.mem_of_getElem? found
      simp only [Option.mem_def, Option.some.injEq, forall_eq']
      cases call with
      | release claim =>
        exact release_displaces books (books.handed _ mem claim (by simp [CodeCall.claims]))
      | _ => simp [send, CodeCall.displaces, CodeCall.FindsEmpty]
  | _ => simp [apply, begin, FindsEmpty]

theorem displaced_grows (s : CodeRun) (op : CodeOp) : s.displaced <+: (s.apply op).displaced := by
  cases op with
  | turn place chosen =>
    simp only [apply]
    split
    · exact List.prefix_append _ _
    · exact List.prefix_rfl
  | _ => exact List.prefix_rfl

theorem displaced_prefix (s : CodeRun) (ops : List CodeOp) :
    s.displaced <+: (ops.foldl apply s).displaced := by
  induction ops generalizing s with
  | nil => exact List.prefix_rfl
  | cons op rest ih => exact (displaced_grows s op).trans (ih _)

/-! ## The run -/

structure UsedOnce (s : CodeRun) : Prop where
  /-- Of all claims of one code at most one is outstanding or committed. -/
  single : ∀ first ∈ s.taken, ∀ second ∈ s.taken, first.code = second.code →
    first.claimId ∉ s.givenBack → second.claimId ∉ s.givenBack → first = second
  /-- Once a claim has been committed its code is not claimed again. -/
  spent : ∀ before claim after, s.taken = before ++ claim :: after →
    claim.claimId ∈ s.committed → ∀ later ∈ after, later.code ≠ claim.code
  kept : s.displaced = []

theorem Books.usedOnce (books : s.Books) (kept : s.displaced = []) : s.UsedOnce where
  single first left second right same out other := books.single first ⟨left, out⟩ second ⟨right, other⟩ same
  spent before claim after split mem := by
    refine books.last before claim after split ?_
    obtain ⟨owner, out, same⟩ := books.committed _ mem
    exact same ▸ out.2
  kept := kept

theorem books_run {ops : List CodeOp} (books : s.Books) (may : AllowedRun Allowed apply s ops) :
    (ops.foldl apply s).Books := by
  induction ops generalizing s with
  | nil => exact books
  | cons op rest ih => exact ih (books.apply may.1) may.2

theorem displaced_run {ops : List CodeOp} (books : s.Books) (may : AllowedRun Allowed apply s ops)
    (clear : s.displaced = []) :
    (ops.foldl apply s).displaced = [] ↔ AllowedRun FindsEmpty apply s ops := by
  induction ops generalizing s with
  | nil => exact iff_of_true clear trivial
  | cons op rest ih =>
    rw [List.foldl_cons, AllowedRun, ← displaced_iff books]
    constructor
    · intro empty
      have now : (s.apply op).displaced = [] := by
        have front := displaced_prefix (s.apply op) rest
        rwa [empty, List.prefix_nil] at front
      exact ⟨now.trans clear.symm, (ih (books.apply may.1) may.2 now).mp empty⟩
    · rintro ⟨now, others⟩
      exact (ih (books.apply may.1) may.2 (now.trans clear)).mpr others

/-- Claims are single use in every run; a later code is safe exactly where each release of a held
claim finds the key of the code empty. -/
theorem codes_used_once (ops : List CodeOp) (may : AllowedRun Allowed apply start ops) :
    UsedOnce (ops.foldl apply start) ↔ AllowedRun FindsEmpty apply start ops := by
  rw [← displaced_run Books.start may rfl]
  exact ⟨UsedOnce.kept, (books_run Books.start may).usedOnce⟩

/-- Issue a code: six turns of the call at one place. -/
def issueOps (place : Nat) (code : String) : List CodeOp :=
  .issue :: List.replicate 6 (.turn place code)

/-- A code is claimed, given back, claimed again and committed. -/
def claimTwiceOps : List CodeOp :=
  issueOps 0 "100000" ++
    [.claim "100000", .turn 1 "", .turn 1 "a", .release ⟨"100000", "a", 300000⟩, .turn 2 "",
      .claim "100000", .turn 3 "", .turn 3 "b", .commit ⟨"100000", "b", 300000⟩, .turn 4 "",
      .turn 4 ""]

theorem claim_twice_used_once :
    UsedOnce (claimTwiceOps.foldl apply start) ∧
      AllowedRun FindsEmpty apply start claimTwiceOps := by
  have clear : AllowedRun FindsEmpty apply start claimTwiceOps := by decide +kernel
  exact ⟨(codes_used_once claimTwiceOps (by decide +kernel)).mpr clear, clear⟩

/-- The cooldown of the first code is over while it is borrowed: a second code is sent, and the
release puts the first one over it. -/
def lateReleaseOps : List CodeOp :=
  issueOps 0 "100000" ++ [.tick 61000, .claim "100000", .turn 1 "", .turn 1 "a"] ++
    issueOps 2 "200000" ++ [.release ⟨"100000", "a", 239000⟩, .turn 3 ""]

theorem late_release_displaces :
    AllowedRun Allowed apply start lateReleaseOps ∧ ¬ UsedOnce (lateReleaseOps.foldl apply start) := by
  refine ⟨by decide +kernel, fun used => ?_⟩
  have kept := used.kept
  have lost : (lateReleaseOps.foldl apply start).displaced = ["200000"] := by decide +kernel
  rw [lost] at kept
  cases kept

end CodeRun
end SwitchRemake.Auth

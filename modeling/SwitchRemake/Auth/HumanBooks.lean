import SwitchRemake.Auth.HumanChallenge
import Mathlib.Data.List.Basic
import Mathlib.Data.List.Nodup

/-!
# Challenges and proofs are used once

What stands in the keys has been stored and not yet taken, and what was taken was taken once.
-/

namespace SwitchRemake.Auth.Human
open Lib Redis HumanCheck

variable {security : Security} {s s' : HumanRun}

namespace HumanKeys
variable {keys : HumanKeys} {token other : String}

theorem challenge_set {cell : Cell StoredChallenge} : (keys.setChallenge token cell).challenge other =
    if other = token then cell.get keys.now else keys.challenge other := by
  simp only [challenge, setChallenge]
  split <;> rfl

theorem proof_set {cell : Cell StoredProof} : (keys.setProof token cell).proof other =
    if other = token then cell.get keys.now else keys.proof other := by
  simp only [proof, setProof]
  split <;> rfl

end HumanKeys

/-- Deleting takes the value that is there, or changes nothing. -/
theorem delete_cases {α : Type} [DecidableEq α] (now : Nat) (key : Cell α) (value : α) :
    (key.get now = some value ∧ compareAndDelete now key value = (true, none)) ∨
      compareAndDelete now key value = (false, key) := by
  unfold compareAndDelete
  by_cases there : key.get now = some value
  · exact .inl ⟨there, if_pos there⟩
  · exact .inr (if_neg there)

def Evaluation.token (e : Evaluation) : String := e.request.challengeToken

def Evaluation.verdict (security : Security) (e : Evaluation) : Verdict :=
  judge security e.stored e.request e.clock

namespace HumanRun
variable {place other : Nat} {draw : Draw} {call result : HumanCall}

theorem begin_call (here : (s.begin call).calls[other]? = some result) :
    s.calls[other]? = some result ∨ other = s.calls.length ∧ result = call := by
  rcases Nat.lt_trichotomy other s.calls.length with inside | rfl | past
  · exact .inl (by simpa [begin, List.getElem?_append, inside] using here)
  · exact .inr ⟨rfl, by simpa [begin, eq_comm] using here⟩
  · have outside : (s.calls ++ [call]).length ≤ other := by simp; omega
    rw [begin, List.getElem?_eq_none outside] at here
    cases here

theorem send_call (found : s.calls[place]? = some call)
    (here : (s.send security place draw call).calls[other]? = some result) :
    other = place ∧ result = (call.turn security s.keys draw).2 ∨
      other ≠ place ∧ s.calls[other]? = some result := by
  obtain ⟨inside, _⟩ := List.getElem?_eq_some_iff.mp found
  by_cases same : other = place
  · subst same
    exact .inl ⟨rfl, by simpa [send, inside, eq_comm] using here⟩
  · exact .inr ⟨same, by simpa [send, Ne.symm same] using here⟩

end HumanRun

/-- The proof was stored for a challenge that was issued like this. -/
def Backed (s : HumanRun) (token : String) (proof : StoredProof) : Prop :=
  ∃ challengeToken stored, (token, challengeToken) ∈ s.proofs ∧ (challengeToken, stored) ∈ s.stored ∧
    proofOf stored = proof

theorem Backed.grow {token : String} {proof : StoredProof} (backed : Backed s token proof)
    (proofs : s.proofs ⊆ s'.proofs) (stored : s.stored ⊆ s'.stored) : Backed s' token proof := by
  obtain ⟨challengeToken, challenge, proved, issued, same⟩ := backed
  exact ⟨challengeToken, challenge, proofs proved, stored issued, same⟩

structure Books (security : Security) (s : HumanRun) : Prop where
  tokens : (s.stored.map Prod.fst).Nodup
  once : (s.evaluations.map Evaluation.token).Nodup
  known : ∀ e ∈ s.evaluations, (e.token, e.stored) ∈ s.stored
  waiting : ∀ token stored, s.keys.challenge token = some stored →
    (token, stored) ∈ s.stored ∧ token ∉ s.evaluations.map Evaluation.token
  proofTokens : (s.proofs.map Prod.fst).Nodup
  single : (s.proofs.map Prod.snd).Nodup
  earned : ∀ pair ∈ s.proofs, ∃ e ∈ s.evaluations, e.token = pair.2 ∧ e.verdict security = .passes
  storing : ∀ (place : Nat) token stored, s.calls[place]? = some (.proofStore token stored) →
    token ∉ s.proofs.map Prod.snd ∧ ∃ e ∈ s.evaluations, e.place = place ∧ e.token = token ∧
      e.stored = stored ∧ e.verdict security = .passes
  live : ∀ token proof, s.keys.proof token = some proof →
    token ∉ s.passed.map ConsumeRequest.proofToken ∧ Backed s token proof
  spentOnce : (s.passed.map ConsumeRequest.proofToken).Nodup
  spent : ∀ r ∈ s.passed, Backed s r.proofToken ⟨r.purpose, r.subjectHash, r.ipHash⟩
  matched : ∀ (place : Nat) request proof, s.calls[place]? = some (.consumeTake request proof) →
    proof = ⟨request.purpose, request.subjectHash, request.ipHash⟩

namespace Books

theorem start : Books security .start where
  tokens := List.nodup_nil
  once := List.nodup_nil
  known := by simp [HumanRun.start]
  waiting := by simp [HumanRun.start, HumanKeys.challenge]
  proofTokens := List.nodup_nil
  single := List.nodup_nil
  earned := by simp [HumanRun.start]
  storing := by simp [HumanRun.start]
  live := by simp [HumanRun.start, HumanKeys.proof]
  spentOnce := List.nodup_nil
  spent := by simp [HumanRun.start]
  matched := by simp [HumanRun.start]

/-- Nothing is stored or taken. -/
theorem quiet (books : Books security s)
    (challenge : ∀ token stored, s'.keys.challenge token = some stored →
      s.keys.challenge token = some stored)
    (proof : ∀ token proof, s'.keys.proof token = some proof → s.keys.proof token = some proof)
    (storing : ∀ (place : Nat) token stored, s'.calls[place]? = some (.proofStore token stored) →
      s.calls[place]? = some (.proofStore token stored))
    (matched : ∀ (place : Nat) request proof, s'.calls[place]? = some (.consumeTake request proof) →
      proof = ⟨request.purpose, request.subjectHash, request.ipHash⟩)
    (stored : s'.stored = s.stored) (evaluations : s'.evaluations = s.evaluations)
    (proofs : s'.proofs = s.proofs) (passed : s'.passed = s.passed) : Books security s' where
  tokens := stored ▸ books.tokens
  once := evaluations ▸ books.once
  known := by simpa only [evaluations, stored] using books.known
  waiting token st here := by
    simpa only [evaluations, stored] using books.waiting token st (challenge token st here)
  proofTokens := proofs ▸ books.proofTokens
  single := proofs ▸ books.single
  earned := by simpa only [evaluations, proofs] using books.earned
  storing place token st here := by
    simpa only [evaluations, proofs] using books.storing place token st (storing place token st here)
  live token pr here := by
    simpa only [Backed, stored, proofs, passed] using books.live token pr (proof token pr here)
  spentOnce := passed ▸ books.spentOnce
  spent := by simpa only [Backed, stored, proofs, passed] using books.spent
  matched := matched

theorem same_evaluation (books : Books security s) {e f : Evaluation} (he : e ∈ s.evaluations)
    (hf : f ∈ s.evaluations) (token : e.token = f.token) : e = f :=
  List.inj_on_of_nodup_map books.once he hf token

theorem begins (books : Books security s) {call : HumanCall}
    (storing : ∀ token stored, call ≠ .proofStore token stored)
    (taking : ∀ request proof, call ≠ .consumeTake request proof) :
    Books security (s.begin call) := by
  refine books.quiet (fun _ _ => id) (fun _ _ => id) (fun place token stored here => ?_)
    (fun place request proof here => ?_) rfl rfl rfl rfl
  · rcases HumanRun.begin_call here with old | ⟨_, rfl⟩
    · exact old
    · exact absurd rfl (storing token stored)
  · rcases HumanRun.begin_call here with old | ⟨_, rfl⟩
    · exact books.matched place request proof old
    · exact absurd rfl (taking request proof)

variable {place : Nat} {draw : Draw} {call : HumanCall}

/-- A turn that works on counters alone. -/
theorem counts (books : Books security s) (found : s.calls[place]? = some call)
    (now : (call.turn security s.keys draw).1.now = s.keys.now)
    (challenges : (call.turn security s.keys draw).1.challenges = s.keys.challenges)
    (proofs : (call.turn security s.keys draw).1.proofs = s.keys.proofs)
    (storing : ∀ token stored, (call.turn security s.keys draw).2 ≠ .proofStore token stored)
    (taking : ∀ request proof, (call.turn security s.keys draw).2 = .consumeTake request proof →
      proof = ⟨request.purpose, request.subjectHash, request.ipHash⟩)
    (stores : call.stores draw = []) (evaluates : call.evaluates s.keys draw place = [])
    (proves : call.proves draw = []) (passes : call.passes s.keys = []) :
    Books security (s.send security place draw call) := by
  refine books.quiet (fun token stored here => ?_) (fun token proof here => ?_)
    (fun other token stored here => ?_) (fun other request proof here => ?_)
    (by simp [HumanRun.send, stores]) (by simp [HumanRun.send, evaluates])
    (by simp [HumanRun.send, proves]) (by simp [HumanRun.send, passes])
  · simpa [HumanRun.send, HumanKeys.challenge, now, challenges] using here
  · simpa [HumanRun.send, HumanKeys.proof, now, proofs] using here
  · rcases HumanRun.send_call found here with ⟨_, turned⟩ | ⟨_, old⟩
    · exact absurd turned.symm (storing token stored)
    · exact old
  · rcases HumanRun.send_call found here with ⟨_, turned⟩ | ⟨_, old⟩
    · exact taking request proof turned.symm
    · exact books.matched other request proof old

theorem stores {request : IssueRequest} {bits : Nat} {round : Bool} (books : Books security s)
    (found : s.calls[place]? = some (.issueStore request bits round))
    (fresh : draw.token ∉ s.stored.map Prod.fst) :
    Books security (s.send security place draw (.issueStore request bits round)) where
  tokens := by
    simp only [HumanRun.send, HumanCall.stores, List.map_append, List.map_singleton]
    exact List.Nodup.append books.tokens (List.nodup_singleton _) (by simpa using fresh)
  once := by simpa [HumanRun.send, HumanCall.evaluates] using books.once
  known e mem := by
    have old : e ∈ s.evaluations := by simpa [HumanRun.send, HumanCall.evaluates] using mem
    exact List.mem_append_left _ (books.known e old)
  waiting token stored here := by
    by_cases same : token = draw.token
    · subst same
      have new : challengeOf request bits round draw = stored := by
        simpa [HumanRun.send, HumanCall.turn, HumanKeys.challenge_set] using here
      refine ⟨List.mem_append_right _ (by simp [HumanCall.stores, new]), fun taken => fresh ?_⟩
      obtain ⟨e, mem, token⟩ := List.mem_map.mp taken
      have old : e ∈ s.evaluations := by simpa [HumanRun.send, HumanCall.evaluates] using mem
      exact token ▸ List.mem_map_of_mem (f := Prod.fst) (books.known e old)
    · have old : s.keys.challenge token = some stored := by
        simpa [HumanRun.send, HumanCall.turn, HumanKeys.challenge_set, same] using here
      obtain ⟨mem, untaken⟩ := books.waiting token stored old
      exact ⟨List.mem_append_left _ mem, by simpa [HumanRun.send, HumanCall.evaluates] using untaken⟩
  proofTokens := by simpa [HumanRun.send, HumanCall.proves] using books.proofTokens
  single := by simpa [HumanRun.send, HumanCall.proves] using books.single
  earned := by simpa [HumanRun.send, HumanCall.proves, HumanCall.evaluates] using books.earned
  storing other token stored here := by
    rcases HumanRun.send_call found here with ⟨_, turned⟩ | ⟨_, old⟩
    · cases turned
    · simpa [HumanRun.send, HumanCall.proves, HumanCall.evaluates] using
        books.storing other token stored old
  live token proof here := by
    obtain ⟨unspent, backed⟩ := books.live token proof here
    refine ⟨by simpa [HumanRun.send, HumanCall.passes] using unspent, ?_⟩
    exact backed.grow (List.subset_append_left _ _) (List.subset_append_left _ _)
  spentOnce := by simpa [HumanRun.send, HumanCall.passes] using books.spentOnce
  spent r mem := by
    have old : r ∈ s.passed := by simpa [HumanRun.send, HumanCall.passes] using mem
    exact (books.spent r old).grow (List.subset_append_left _ _) (List.subset_append_left _ _)
  matched other request proof here := by
    rcases HumanRun.send_call found here with ⟨_, turned⟩ | ⟨_, old⟩
    · cases turned
    · exact books.matched other request proof old

/-- The challenge is taken, whatever the answer turns out to be. -/
theorem evaluates {request : VerifyRequest} {stored : StoredChallenge} (books : Books security s)
    (found : s.calls[place]? = some (.verifyTake request stored))
    (there : s.keys.challenge request.challengeToken = some stored)
    (taken : compareAndDelete s.keys.now (s.keys.challenges request.challengeToken) stored =
      (true, none)) :
    Books security (s.send security place draw (.verifyTake request stored)) := by
  let e : Evaluation := ⟨place, request, stored, draw.clock⟩
  have logged : (s.send security place draw (.verifyTake request stored)).evaluations =
      s.evaluations ++ [e] := by simp [HumanRun.send, HumanCall.evaluates, taken, e]
  obtain ⟨issued, untaken⟩ := books.waiting _ _ there
  exact {
    tokens := by simpa [HumanRun.send, HumanCall.stores] using books.tokens
    once := by
      rw [logged, List.map_append, List.map_singleton]
      exact List.Nodup.append books.once (List.nodup_singleton _) (by simpa [e, Evaluation.token] using untaken)
    known := by
      intro f mem
      rw [logged, List.mem_append, List.mem_singleton] at mem
      rcases mem with old | rfl
      · exact List.mem_append_left _ (books.known f old)
      · exact List.mem_append_left _ issued
    waiting := by
      intro token challenge here
      have other : token ≠ request.challengeToken := by
        rintro rfl
        simp [HumanRun.send, HumanCall.turn, HumanKeys.challenge_set, taken] at here
      have old : s.keys.challenge token = some challenge := by
        simpa [HumanRun.send, HumanCall.turn, HumanKeys.challenge_set, other] using here
      obtain ⟨mem, before⟩ := books.waiting token challenge old
      refine ⟨List.mem_append_left _ mem, ?_⟩
      rw [logged, List.map_append, List.mem_append, not_or]
      exact ⟨before, by simpa [e, Evaluation.token] using other⟩
    proofTokens := by simpa [HumanRun.send, HumanCall.proves] using books.proofTokens
    single := by simpa [HumanRun.send, HumanCall.proves] using books.single
    earned := by
      intro pair mem
      have old : pair ∈ s.proofs := by simpa [HumanRun.send, HumanCall.proves] using mem
      obtain ⟨f, member, facts⟩ := books.earned pair old
      exact ⟨f, logged ▸ List.mem_append_left _ member, facts⟩
    storing := by
      intro other token challenge here
      have keeps : (s.send security place draw (.verifyTake request stored)).proofs = s.proofs := by
        simp [HumanRun.send, HumanCall.proves]
      rw [keeps, logged]
      rcases HumanRun.send_call found here with ⟨rfl, turned⟩ | ⟨_, old⟩
      · have passes : judge security stored request draw.clock = .passes := by
          cases verdict : judge security stored request draw.clock with
          | passes => rfl
          | refused error => simp [HumanCall.turn, taken, verdict] at turned
          | fails error => simp [HumanCall.turn, taken, verdict] at turned
        simp only [HumanCall.turn, taken, passes, if_true, HumanCall.proofStore.injEq] at turned
        obtain ⟨rfl, rfl⟩ := turned
        refine ⟨fun proved => ?_, e, by simp, rfl, rfl, rfl, passes⟩
        obtain ⟨pair, member, same⟩ := List.mem_map.mp proved
        obtain ⟨f, earned, token, _⟩ := books.earned pair member
        exact untaken (List.mem_map.mpr ⟨f, earned, token.trans same⟩)
      · obtain ⟨unproved, f, member, facts⟩ := books.storing other token challenge old
        exact ⟨unproved, f, List.mem_append_left _ member, facts⟩
    live := by
      intro token proof here
      obtain ⟨unspent, backed⟩ := books.live token proof here
      refine ⟨by simpa [HumanRun.send, HumanCall.passes] using unspent, ?_⟩
      exact backed.grow (List.subset_append_left _ _) (List.subset_append_left _ _)
    spentOnce := by simpa [HumanRun.send, HumanCall.passes] using books.spentOnce
    spent := by
      intro r mem
      have old : r ∈ s.passed := by simpa [HumanRun.send, HumanCall.passes] using mem
      exact (books.spent r old).grow (List.subset_append_left _ _) (List.subset_append_left _ _)
    matched := by
      intro other consume proof here
      rcases HumanRun.send_call found here with ⟨_, turned⟩ | ⟨_, old⟩
      · cases verdict : judge security stored request draw.clock <;>
          simp [HumanCall.turn, taken, verdict] at turned
      · exact books.matched other consume proof old }

theorem proves {challengeToken : String} {stored : StoredChallenge} (books : Books security s)
    (found : s.calls[place]? = some (.proofStore challengeToken stored))
    (fresh : draw.token ∉ s.proofs.map Prod.fst) :
    Books security (s.send security place draw (.proofStore challengeToken stored)) := by
  have logged : (s.send security place draw (.proofStore challengeToken stored)).proofs =
      s.proofs ++ [(draw.token, challengeToken)] := rfl
  have judged : (s.send security place draw (.proofStore challengeToken stored)).evaluations =
      s.evaluations := by simp [HumanRun.send, HumanCall.evaluates]
  obtain ⟨unproved, e, member, here, token, same, passes⟩ := books.storing place _ _ found
  have grows {proofToken : String} {proof : StoredProof} (backed : Backed s proofToken proof) :
      Backed (s.send security place draw (.proofStore challengeToken stored)) proofToken proof :=
    backed.grow (List.subset_append_left _ _) (List.subset_append_left _ _)
  exact {
    tokens := by simpa [HumanRun.send, HumanCall.stores] using books.tokens
    once := judged ▸ books.once
    known := by
      intro f mem
      exact List.mem_append_left _ (books.known f (judged ▸ mem))
    waiting := by
      intro other challenge now
      obtain ⟨mem, untaken⟩ := books.waiting other challenge now
      exact ⟨List.mem_append_left _ mem, judged ▸ untaken⟩
    proofTokens := by
      rw [logged, List.map_append, List.map_singleton]
      exact List.Nodup.append books.proofTokens (List.nodup_singleton _) (by simpa using fresh)
    single := by
      rw [logged, List.map_append, List.map_singleton]
      exact List.Nodup.append books.single (List.nodup_singleton _) (by simpa using unproved)
    earned := by
      intro pair mem
      rw [logged, List.mem_append, List.mem_singleton] at mem
      rw [judged]
      rcases mem with old | rfl
      · exact books.earned pair old
      · exact ⟨e, member, token, passes⟩
    storing := by
      intro other otherToken challenge now
      rcases HumanRun.send_call found now with ⟨_, turned⟩ | ⟨elsewhere, old⟩
      · cases turned
      · obtain ⟨before, f, earlier, there, facts⟩ := books.storing other otherToken challenge old
        rw [logged, judged, List.map_append, List.mem_append, not_or]
        refine ⟨⟨before, ?_⟩, f, earlier, there, facts⟩
        intro again
        have tokens : otherToken = challengeToken := by simpa using again
        have one := books.same_evaluation earlier member (facts.1.trans (tokens.trans token.symm))
        exact elsewhere (there.symm.trans (one ▸ here))
    live := by
      intro proofToken proof now
      by_cases new : proofToken = draw.token
      · subst new
        have stands : proofOf stored = proof := by
          simpa [HumanRun.send, HumanCall.turn, HumanKeys.proof_set] using now
        refine ⟨fun spent => fresh ?_, challengeToken, stored, ?_, ?_, stands⟩
        · obtain ⟨r, mem, used⟩ := List.mem_map.mp spent
          have old : r ∈ s.passed := by simpa [HumanRun.send, HumanCall.passes] using mem
          obtain ⟨_, _, proved, _⟩ := books.spent r old
          exact List.mem_map.mpr ⟨_, proved, used⟩
        · exact logged ▸ List.mem_append_right _ (List.mem_singleton_self _)
        · exact List.mem_append_left _ (token ▸ same ▸ books.known e member)
      · have old : s.keys.proof proofToken = some proof := by
          simpa [HumanRun.send, HumanCall.turn, HumanKeys.proof_set, new] using now
        obtain ⟨unspent, backed⟩ := books.live proofToken proof old
        exact ⟨by simpa [HumanRun.send, HumanCall.passes] using unspent, grows backed⟩
    spentOnce := by simpa [HumanRun.send, HumanCall.passes] using books.spentOnce
    spent := by
      intro r mem
      have old : r ∈ s.passed := by simpa [HumanRun.send, HumanCall.passes] using mem
      exact grows (books.spent r old)
    matched := by
      intro other request proof now
      rcases HumanRun.send_call found now with ⟨_, turned⟩ | ⟨_, old⟩
      · cases turned
      · exact books.matched other request proof old }

theorem passes {request : ConsumeRequest} {proof : StoredProof} (books : Books security s)
    (found : s.calls[place]? = some (.consumeTake request proof))
    (there : s.keys.proof request.proofToken = some proof)
    (taken : compareAndDelete s.keys.now (s.keys.proofs request.proofToken) proof = (true, none)) :
    Books security (s.send security place draw (.consumeTake request proof)) := by
  have logged : (s.send security place draw (.consumeTake request proof)).passed =
      s.passed ++ [request] := by simp [HumanRun.send, HumanCall.passes, taken]
  have judged : (s.send security place draw (.consumeTake request proof)).evaluations =
      s.evaluations := by simp [HumanRun.send, HumanCall.evaluates]
  have proved : (s.send security place draw (.consumeTake request proof)).proofs = s.proofs := by
    simp [HumanRun.send, HumanCall.proves]
  have grows {proofToken : String} {other : StoredProof} (backed : Backed s proofToken other) :
      Backed (s.send security place draw (.consumeTake request proof)) proofToken other :=
    backed.grow (List.subset_append_left _ _) (List.subset_append_left _ _)
  obtain ⟨unspent, backed⟩ := books.live _ _ there
  exact {
    tokens := by simpa [HumanRun.send, HumanCall.stores] using books.tokens
    once := judged ▸ books.once
    known := by
      intro f mem
      exact List.mem_append_left _ (books.known f (judged ▸ mem))
    waiting := by
      intro other challenge now
      obtain ⟨mem, untaken⟩ := books.waiting other challenge now
      exact ⟨List.mem_append_left _ mem, judged ▸ untaken⟩
    proofTokens := proved ▸ books.proofTokens
    single := proved ▸ books.single
    earned := by
      intro pair mem
      rw [judged]
      exact books.earned pair (proved ▸ mem)
    storing := by
      intro other token challenge now
      rw [proved, judged]
      rcases HumanRun.send_call found now with ⟨_, turned⟩ | ⟨_, old⟩
      · cases turned
      · exact books.storing other token challenge old
    live := by
      intro proofToken other now
      have elsewhere : proofToken ≠ request.proofToken := by
        rintro rfl
        simp [HumanRun.send, HumanCall.turn, HumanKeys.proof_set, taken] at now
      have old : s.keys.proof proofToken = some other := by
        simpa [HumanRun.send, HumanCall.turn, HumanKeys.proof_set, elsewhere] using now
      obtain ⟨before, known⟩ := books.live proofToken other old
      refine ⟨?_, grows known⟩
      rw [logged, List.map_append, List.mem_append, not_or]
      exact ⟨before, by simpa using elsewhere⟩
    spentOnce := by
      rw [logged, List.map_append, List.map_singleton]
      exact List.Nodup.append books.spentOnce (List.nodup_singleton _) (by simpa using unspent)
    spent := by
      intro r mem
      rw [logged, List.mem_append, List.mem_singleton] at mem
      rcases mem with old | rfl
      · exact grows (books.spent r old)
      · exact books.matched place r proof found ▸ grows backed
    matched := by
      intro other consume stored now
      rcases HumanRun.send_call found now with ⟨_, turned⟩ | ⟨_, old⟩
      · cases turned
      · exact books.matched other consume stored old }

theorem assess_quiet (request : IssueRequest) (issues failures loginRisk : Nat) :
    (∀ token stored, assess request issues failures loginRisk ≠ .proofStore token stored) ∧
      ∀ consume proof, assess request issues failures loginRisk ≠ .consumeTake consume proof := by
  simp only [assess]
  split
  · split <;> simp
  · simp

theorem send (books : Books security s) (found : s.calls[place]? = some call)
    (may : s.Allowed (.turn place draw)) : Books security (s.send security place draw call) := by
  cases call with
  | issueStore request bits round => exact books.stores found (by simpa [HumanRun.Allowed, found] using may)
  | proofStore token stored => exact books.proves found (by simpa [HumanRun.Allowed, found] using may)
  | verifyTake request stored =>
    rcases delete_cases s.keys.now (s.keys.challenges request.challengeToken) stored with
      ⟨there, taken⟩ | kept
    · exact books.evaluates found there taken
    · refine books.counts found rfl ?_ rfl (by simp [HumanCall.turn, kept])
        (by simp [HumanCall.turn, kept]) rfl (by simp [HumanCall.evaluates, kept]) rfl rfl
      funext other
      simp only [HumanCall.turn, HumanKeys.setChallenge, kept]
      split <;> simp_all
  | consumeTake request proof =>
    rcases delete_cases s.keys.now (s.keys.proofs request.proofToken) proof with ⟨there, taken⟩ | kept
    · exact books.passes found there taken
    · refine books.counts found rfl rfl ?_ (by simp [HumanCall.turn]) (by simp [HumanCall.turn]) rfl rfl
        rfl (by simp [HumanCall.passes, kept])
      funext other
      simp only [HumanCall.turn, HumanKeys.setProof, kept]
      split <;> simp_all
  | issueAddress request issues subjectFailures =>
    have quiet := assess_quiet request issues
      (subjectFailures + s.keys.count (.failure .address request.ipHash)) 0
    refine books.counts found rfl rfl rfl (fun token stored => ?_) (fun consume proof here => ?_) rfl rfl
      rfl rfl
    · simp only [HumanCall.turn]
      split
      · simp
      · exact quiet.1 token stored
    · simp only [HumanCall.turn] at here
      split at here
      · cases here
      · exact absurd here (quiet.2 consume proof)
  | issuePair request issues failures emailRisk =>
    have quiet := assess_quiet request issues failures
      (max emailRisk (s.keys.count (.loginPair request.subjectHash request.ipHash)))
    exact books.counts found rfl rfl rfl quiet.1 (fun consume proof here => absurd here (quiet.2 _ _))
      rfl rfl rfl rfl
  | issueRadio request bits =>
    refine books.counts found rfl rfl rfl (fun token stored => ?_) (fun consume proof here => ?_) rfl rfl
      rfl rfl
    · simp only [HumanCall.turn]
      split <;> simp
    · simp only [HumanCall.turn] at here
      split at here <;> cases here
  | verifyRead request =>
    cases there : s.keys.challenge request.challengeToken with
    | none =>
      exact books.counts found (by simp [HumanCall.turn, there]) (by simp [HumanCall.turn, there])
        (by simp [HumanCall.turn, there]) (by simp [HumanCall.turn, there])
        (by simp [HumanCall.turn, there]) rfl rfl rfl rfl
    | some stored =>
      exact books.counts found (by simp [HumanCall.turn, there]) (by simp [HumanCall.turn, there])
        (by simp [HumanCall.turn, there]) (by simp [HumanCall.turn, there])
        (by simp [HumanCall.turn, there]) rfl rfl rfl rfl
  | consumeRead request =>
    cases there : s.keys.proof request.proofToken with
    | none =>
      exact books.counts found (by simp [HumanCall.turn, there]) (by simp [HumanCall.turn, there])
        (by simp [HumanCall.turn, there]) (by simp [HumanCall.turn, there])
        (by simp [HumanCall.turn, there]) rfl rfl rfl rfl
    | some proof =>
      refine books.counts found (by simp [HumanCall.turn, there]) (by simp [HumanCall.turn, there])
        (by simp [HumanCall.turn, there]) (fun token stored => ?_) (fun other claimed here => ?_) rfl rfl
        rfl rfl
      · simp only [HumanCall.turn, there]
        split <;> simp
      · simp only [HumanCall.turn, there] at here
        split at here
        · next same =>
          cases here
          exact same
        · cases here
  | issued _ | verified _ | consumed _ | done | issueCount _ | issueSubject _ _ | issueEmail _ _ _
  | failSubject _ _ _ | failAddress _ _ _ | riskEmail _ _ | riskPair _ _ | clearEmail _ _
  | clearPair _ _ =>
    exact books.counts found rfl rfl rfl (by simp [HumanCall.turn]) (by simp [HumanCall.turn]) rfl rfl rfl
      rfl

theorem apply {op : HumanOp} (books : Books security s) (may : s.Allowed op) :
    Books security (s.apply security op) := by
  cases op with
  | tick ms =>
    exact books.quiet (fun _ _ => Cell.get_of_later (Nat.le_add_right _ _))
      (fun _ _ => Cell.get_of_later (Nat.le_add_right _ _)) (fun _ _ _ => id) books.matched rfl rfl rfl rfl
  | issue | verify | recordLoginFailure | clearLoginFailures => exact books.begins nofun nofun
  | consumeProof proofToken => cases proofToken <;> exact books.begins nofun nofun
  | turn place draw =>
    cases found : s.calls[place]? with
    | none => simpa [HumanRun.apply, found] using books
    | some call => simpa [HumanRun.apply, found] using books.send found may

theorem reach (run : Reach HumanRun.Allowed (HumanRun.apply security) .start s) : Books security s :=
  run.invariant start fun _ _ => apply

end Books
end SwitchRemake.Auth.Human

import SwitchRemake.Auth.FactorOnce

/-!
# What a factor authorises

A call accepts one factor at most and carries out one operation at most, against the method the
factor was accepted for.
-/

namespace SwitchRemake.Auth.Mfa
open Lib Redis

variable {security : Security} {s : MfaRun}

def Event.accepts : Event → Option (MfaMethod × EmailPurpose)
  | .accepted _ method purpose => some (method, purpose)
  | _ => none

/-- The method an operation was checked against, if there was one, and its purpose. -/
def Event.operates : Event → Option (Option MfaMethod × EmailPurpose)
  | .loggedIn checked => some (checked, .login)
  | .operated operation checked => some (checked, operation.purpose)
  | _ => none

namespace MfaCall

/-- No factor has been accepted yet. -/
def pending : MfaCall → Bool
  | .loginDone _ | .createSession _ | .release _ | .transaction _ _ | .isOver => false
  | _ => true

/-- What the call takes to have been accepted. -/
def vouch : MfaCall → Option (MfaMethod × EmailPurpose)
  | .loginDone attempt => some (attempt.state.method, .login)
  | .createSession state => some (state.method, .login)
  | .transaction operation (.verified method) => some (method, operation.purpose)
  | _ => none

/-- The mail that an account is deleted with is itself the factor of the mail method. -/
def mailedDeletion (call : MfaCall) : Prop := call = .transaction .deleteAccount (.verified .email)

end MfaCall

/-- How a turn bears on the authority of its call. -/
inductive AuthorityTurn (call : MfaCall) : Turned → Prop where
  | quiet {turned : Turned} (accepts : turned.event.bind Event.accepts = none)
      (operates : turned.event.bind Event.operates = none)
      (pending : turned.call.pending = true → call.pending = true)
      (vouch : ∀ v, turned.call.vouch = some v →
        call.vouch = some v ∧ ¬ call.mailedDeletion ∨ turned.call.mailedDeletion)
      (isOver : call = .isOver → turned.call = .isOver) : AuthorityTurn call turned
  | accepts {turned : Turned} {v : MfaMethod × EmailPurpose} (accepts : turned.event.bind Event.accepts = some v)
      (operates : turned.event.bind Event.operates = none) (before : call.pending = true)
      (pending : turned.call.pending = false) (vouch : ∀ w, turned.call.vouch = some w → w = v) :
      AuthorityTurn call turned
  | logsIn {turned : Turned} {checked : Option MfaMethod} (event : turned.event = some (.loggedIn checked))
      (before : call ≠ .isOver) (isOver : turned.call = .isOver)
      (vouch : ∀ method, checked = some method → call.vouch = some (method, .login)) :
      AuthorityTurn call turned
  | operates {turned : Turned} {operation : Operation} {checked : Option MfaMethod}
      (event : turned.event = some (.operated operation checked))
      (before : call ≠ .isOver) (isOver : turned.call = .isOver)
      (is : ∀ method, checked = some method → call = .transaction operation (.verified method)) :
      AuthorityTurn call turned

theorem accept_pending (request : FactorRequest) (method : MfaMethod) :
    (accept request method).pending = false := by
  unfold accept
  cases request.purpose with
  | login attempt =>
    dsimp only
    split <;> rfl
  | operation kind => rfl

theorem accept_vouch {request : FactorRequest} {method : MfaMethod} {v : MfaMethod × EmailPurpose}
    (vouch : (accept request method).vouch = some v) : v = (method, request.purpose.email) := by
  unfold accept at vouch
  cases purpose : request.purpose with
  | login attempt =>
    simp only [purpose] at vouch
    split at vouch
    · next same =>
      rw [same]
      exact (Option.some.inj vouch).symm
    · cases vouch
  | operation kind =>
    rw [purpose] at vouch
    exact (Option.some.inj vouch).symm

theorem refuse_quiet (request : FactorRequest) : (refuse request).pending = false ∧
    (refuse request).vouch = none := by
  unfold refuse
  cases request.purpose <;> exact ⟨rfl, rfl⟩

/-- A call that goes on to the refusal of its request. -/
theorem AuthorityTurn.refused {call : MfaCall} {keys : MfaKeys} {account : Account} (request : FactorRequest)
    (before : call ≠ .isOver) : AuthorityTurn call ⟨keys, account, refuse request, none⟩ := by
  obtain ⟨pending, vouch⟩ := refuse_quiet request
  exact .quiet rfl rfl (by simp [pending]) (by simp [vouch]) fun isOver => absurd isOver before

theorem AuthorityTurn.accepted {call : MfaCall} {keys : MfaKeys} {account : Account}
    (request : FactorRequest) (factor : Factor) (before : call.pending = true) :
    AuthorityTurn call ⟨keys, account, accept request request.expectedMethod,
      some (.accepted factor request.expectedMethod request.purpose.email)⟩ :=
  .accepts rfl rfl before (accept_pending _ _) fun _ => accept_vouch

/-- A pending call that stays pending. -/
theorem AuthorityTurn.reads {call next : MfaCall} {keys : MfaKeys} {account : Account} {event : Option Event}
    (before : call.pending = true) (vouch : next.vouch = none)
    (accepts : event.bind Event.accepts = none) (operates : event.bind Event.operates = none) :
    AuthorityTurn call ⟨keys, account, next, event⟩ :=
  .quiet accepts operates (fun _ => before) (by simp [vouch]) fun isOver => by simp [isOver, MfaCall.pending] at before

theorem turn_authority (security : Security) (keys : MfaKeys) (account : Account) (draw : Draw)
    (call : MfaCall) : AuthorityTurn call (call.turn security keys account draw) := by
  cases call with
  | beginStore state =>
    refine .reads rfl ?_ rfl rfl
    split <;> rfl
  | beginSend token => exact .reads rfl rfl rfl rfl
  | loginRead token code =>
    refine .reads rfl ?_ rfl rfl
    split <;> rfl
  | loginClaim token code state =>
    simp only [MfaCall.turn]
    split
    · exact .reads rfl rfl rfl rfl
    · exact .reads rfl rfl rfl rfl
  | readMethod operation code =>
    refine .quiet rfl rfl (fun _ => rfl) (fun v vouch => ?_) (by simp)
    simp only [MfaCall.turn, authorize] at vouch ⊢
    split at vouch
    · split at vouch
      · cases vouch
      · cases vouch
    · split at vouch
      · next mailed =>
        rw [if_pos mailed]
        obtain ⟨rfl, rfl⟩ := mailed
        exact .inr rfl
      · split at vouch
        · cases vouch
        · cases vouch
  | readSetting request =>
    simp only [MfaCall.turn]
    split
    · exact .refused request (by simp)
    · split
      · exact .refused request (by simp)
      · split
        · exact .reads rfl rfl rfl rfl
        · split
          · exact .reads rfl rfl rfl rfl
          · split
            · exact .refused request (by simp)
            · exact .reads rfl rfl rfl rfl
  | backupRead request =>
    simp only [MfaCall.turn]
    split
    · exact .refused request (by simp)
    · split
      · exact .reads rfl rfl rfl rfl
      · exact .refused request (by simp)
  | backupUse request row =>
    simp only [MfaCall.turn]
    split
    · exact .accepted request _ rfl
    · exact .refused request (by simp)
  | mailed request =>
    simp only [MfaCall.turn]
    split
    · exact .accepted request _ rfl
    · exact .refused request (by simp)
  | totpUse request secret step =>
    simp only [MfaCall.turn]
    split
    · exact .refused request (by simp)
    · split
      · exact .accepted request _ rfl
      · exact .refused request (by simp)
  | loginDone attempt =>
    exact .quiet rfl rfl (by simp [MfaCall.turn, MfaCall.pending])
      (fun v vouch => .inl ⟨vouch, by simp [MfaCall.mailedDeletion]⟩) (by simp)
  | createSession state =>
    simp only [MfaCall.turn]
    split
    · next may =>
      refine .logsIn rfl (by simp) rfl fun method checked => ?_
      obtain ⟨setting, there, rfl⟩ := Option.map_eq_some_iff.mp checked
      have same : setting.method = state.method := by simpa [there] using may.2.2
      rw [same]
      rfl
    · exact .quiet rfl rfl (by simp [MfaCall.pending]) (by simp [MfaCall.vouch]) (by simp)
  | release attempt =>
    exact .quiet rfl rfl (by simp [MfaCall.turn, MfaCall.pending])
      (by simp [MfaCall.turn, MfaCall.vouch]) (by simp)
  | transaction operation authorization =>
    simp only [MfaCall.turn]
    split
    · cases checks : authorized account operation authorization with
      | none => exact .quiet rfl rfl (by simp [MfaCall.pending]) (by simp [MfaCall.vouch]) (by simp)
      | some checked =>
        refine .operates rfl (by simp) rfl fun method same => ?_
        subst same
        unfold authorized at checks
        split at checks
        · split at checks
          · next own =>
            rw [own]
            simpa using checks
          · cases checks
        · split at checks
          · cases checks
          · cases checks
    · exact .quiet rfl rfl (by simp [MfaCall.pending]) (by simp [MfaCall.vouch]) (by simp)
  | isOver => exact .quiet rfl rfl id (by simp [MfaCall.turn, MfaCall.vouch]) fun _ => rfl

/-! ## Every run -/

namespace MfaRun
variable {place other : Nat} {draw : Draw} {call result : MfaCall} {entry : Logged}

theorem begin_calls (here : (s.begin call).calls[other]? = some result) :
    s.calls[other]? = some result ∨ other = s.calls.length ∧ result = call := by
  rcases Nat.lt_trichotomy other s.calls.length with inside | rfl | past
  · exact .inl (by simpa [begin, List.getElem?_append, inside] using here)
  · exact .inr ⟨rfl, by simpa [begin, eq_comm] using here⟩
  · have outside : (s.calls ++ [call]).length ≤ other := by simp; omega
    rw [begin, List.getElem?_eq_none outside] at here
    cases here

theorem send_calls (found : s.calls[place]? = some call)
    (here : (s.send security place draw call).calls[other]? = some result) :
    other = place ∧ result = (call.turn security s.keys s.account draw).call ∨
      other ≠ place ∧ s.calls[other]? = some result := by
  obtain ⟨inside, _⟩ := List.getElem?_eq_some_iff.mp found
  by_cases same : other = place
  · subst same
    exact .inl ⟨rfl, by simpa [send, inside, eq_comm] using here⟩
  · exact .inr ⟨same, by simpa [send, Ne.symm same] using here⟩

theorem mem_send_log : entry ∈ (s.send security place draw call).log ↔ entry ∈ s.log ∨
    entry.place = place ∧ entry.clock = s.keys.now ∧
      (call.turn security s.keys s.account draw).event = some entry.event := by
  simp only [send, List.mem_append, Option.mem_toList, Option.map_eq_some_iff]
  refine or_congr_right ⟨?_, ?_⟩
  · rintro ⟨event, there, rfl⟩
    exact ⟨rfl, rfl, there⟩
  · rintro ⟨at_, clock, there⟩
    exact ⟨entry.event, there, by rw [← at_, ← clock]⟩

end MfaRun

/-- The call at a place has had this factor accepted. -/
def MfaRun.Accepted (s : MfaRun) (place : Nat) (v : MfaMethod × EmailPurpose) : Prop :=
  ∃ entry ∈ s.log, entry.place = place ∧ entry.event.accepts = some v

/-- The places of the calls that have had a factor accepted, and of those that carried something out. -/
def MfaRun.accepting (s : MfaRun) : List Nat :=
  (s.log.filter fun entry => entry.event.accepts.isSome).map Logged.place

def MfaRun.operating (s : MfaRun) : List Nat :=
  (s.log.filter fun entry => entry.event.operates.isSome).map Logged.place

structure Vouched (s : MfaRun) : Prop where
  inside : ∀ entry ∈ s.log, entry.place < s.calls.length
  pending : ∀ (place : Nat) call, s.calls[place]? = some call → call.pending = true →
    place ∉ s.accepting
  vouched : ∀ (place : Nat) call v, s.calls[place]? = some call → call.vouch = some v →
    s.Accepted place v ∨ call.mailedDeletion
  unspent : ∀ (place : Nat) call, s.calls[place]? = some call → call ≠ .isOver → place ∉ s.operating
  acceptOnce : s.accepting.Nodup
  operateOnce : s.operating.Nodup
  authorised : ∀ entry ∈ s.log, ∀ method purpose,
    entry.event.operates = some (some method, purpose) →
    s.Accepted entry.place (method, purpose) ∨
      entry.event = .operated .deleteAccount (some .email)

theorem mem_accepting {place : Nat} :
    place ∈ s.accepting ↔ ∃ entry ∈ s.log, entry.place = place ∧ entry.event.accepts.isSome := by
  simp only [MfaRun.accepting, List.mem_map, List.mem_filter]
  exact ⟨fun ⟨e, ⟨mem, is⟩, at_⟩ => ⟨e, mem, at_, is⟩, fun ⟨e, mem, at_, is⟩ => ⟨e, ⟨mem, is⟩, at_⟩⟩

theorem mem_operating {place : Nat} :
    place ∈ s.operating ↔ ∃ entry ∈ s.log, entry.place = place ∧ entry.event.operates.isSome := by
  simp only [MfaRun.operating, List.mem_map, List.mem_filter]
  exact ⟨fun ⟨e, ⟨mem, is⟩, at_⟩ => ⟨e, mem, at_, is⟩, fun ⟨e, mem, at_, is⟩ => ⟨e, ⟨mem, is⟩, at_⟩⟩

theorem send_accepting (security : Security) (s : MfaRun) (place : Nat) (draw : Draw) (call : MfaCall) :
    (s.send security place draw call).accepting = s.accepting ++
      ((call.turn security s.keys s.account draw).event.bind Event.accepts).toList.map fun _ => place := by
  simp only [MfaRun.accepting, MfaRun.send, List.filter_append, List.map_append]
  cases (call.turn security s.keys s.account draw).event with
  | none => simp
  | some event => cases accepts : event.accepts <;> simp [accepts]

theorem send_operating (security : Security) (s : MfaRun) (place : Nat) (draw : Draw) (call : MfaCall) :
    (s.send security place draw call).operating = s.operating ++
      ((call.turn security s.keys s.account draw).event.bind Event.operates).toList.map fun _ => place := by
  simp only [MfaRun.operating, MfaRun.send, List.filter_append, List.map_append]
  cases (call.turn security s.keys s.account draw).event with
  | none => simp
  | some event => cases operates : event.operates <;> simp [operates]

namespace Vouched
variable {place : Nat} {draw : Draw} {call : MfaCall}

theorem start (account : Account) : Vouched (.start account) where
  inside := by simp [MfaRun.start]
  pending := by simp [MfaRun.start]
  vouched := by simp [MfaRun.start]
  unspent := by simp [MfaRun.start]
  acceptOnce := List.nodup_nil
  operateOnce := List.nodup_nil
  authorised := by simp [MfaRun.start]

theorem begins (vouched : Vouched s) (waits : call.pending = true) (none_ : call.vouch = none) :
    Vouched (s.begin call) := by
  have fresh (place : Nat) (at_ : place = s.calls.length) : place ∉ s.accepting ∧ place ∉ s.operating := by
    constructor
    · intro mem
      obtain ⟨entry, inside, here, _⟩ := mem_accepting.mp mem
      have := vouched.inside entry inside
      omega
    · intro mem
      obtain ⟨entry, inside, here, _⟩ := mem_operating.mp mem
      have := vouched.inside entry inside
      omega
  refine ⟨fun entry mem => ?_, fun other result here is => ?_, fun other result v here is => ?_,
    fun other result here live => ?_, vouched.acceptOnce, vouched.operateOnce, vouched.authorised⟩
  · have := vouched.inside entry mem
    simp only [MfaRun.begin, List.length_append, List.length_singleton]
    omega
  · rcases MfaRun.begin_calls here with old | ⟨at_, _⟩
    · exact vouched.pending other result old is
    · exact (fresh other at_).1
  · rcases MfaRun.begin_calls here with old | ⟨_, rfl⟩
    · exact vouched.vouched other result v old is
    · rw [none_] at is
      cases is
  · rcases MfaRun.begin_calls here with old | ⟨at_, _⟩
    · exact vouched.unspent other result old live
    · exact (fresh other at_).2

/-- The call does what it came for, and is over. -/
theorem carriesOut (vouched : Vouched s) (found : s.calls[place]? = some call) {event : Event}
    (tells : (call.turn security s.keys s.account draw).event = some event)
    (accepts : event.accepts = none) (before : call ≠ .isOver)
    (isOver : (call.turn security s.keys s.account draw).call = .isOver)
    (inside : ∀ entry ∈ (s.send security place draw call).log,
      entry.place < (s.send security place draw call).calls.length)
    (authorised : ∀ method purpose, event.operates = some (some method, purpose) →
      s.Accepted place (method, purpose) ∨ event = .operated .deleteAccount (some .email)) :
    Vouched (s.send security place draw call) := by
  have accepting := send_accepting security s place draw call
  have operating := send_operating security s place draw call
  rw [tells, Option.bind_some, accepts] at accepting
  rw [tells, Option.bind_some] at operating
  simp only [Option.toList_none, List.map_nil, List.append_nil] at accepting
  have keeps {other : Nat} {v : MfaMethod × EmailPurpose} (accepted : s.Accepted other v) :
      (s.send security place draw call).Accepted other v := by
    obtain ⟨entry, mem, facts⟩ := accepted
    exact ⟨entry, List.mem_append_left _ mem, facts⟩
  have unspent := vouched.unspent place call found before
  refine ⟨inside, fun other result here is => ?_, fun other result v here is => ?_,
    fun other result here live => ?_, accepting ▸ vouched.acceptOnce, ?_, fun entry mem method purpose is => ?_⟩
  · rw [accepting]
    rcases MfaRun.send_calls found here with ⟨rfl, rfl⟩ | ⟨_, old⟩
    · rw [isOver] at is
      cases is
    · exact vouched.pending other result old is
  · rcases MfaRun.send_calls found here with ⟨rfl, rfl⟩ | ⟨_, old⟩
    · rw [isOver] at is
      cases is
    · exact (vouched.vouched other result v old is).imp_left keeps
  · rcases MfaRun.send_calls found here with ⟨rfl, rfl⟩ | ⟨differs, old⟩
    · exact absurd isOver live
    · rw [operating, List.mem_append, not_or]
      refine ⟨vouched.unspent other result old live, fun new => differs ?_⟩
      simp only [List.mem_map] at new
      obtain ⟨_, _, same⟩ := new
      exact same.symm
  · rw [operating]
    cases is : event.operates with
    | none => simpa using vouched.operateOnce
    | some v => exact List.Nodup.append vouched.operateOnce (List.nodup_singleton _) (by simpa using unspent)
  · rcases MfaRun.mem_send_log.mp mem with old | ⟨at_, _, new⟩
    · exact (vouched.authorised entry old method purpose is).imp_left keeps
    · obtain rfl : event = entry.event := Option.some.inj (tells.symm.trans new)
      rw [at_]
      exact (authorised method purpose is).imp_left keeps

theorem send (vouched : Vouched s) (found : s.calls[place]? = some call) :
    Vouched (s.send security place draw call) := by
  have accepting := send_accepting security s place draw call
  have operating := send_operating security s place draw call
  have keeps {other : Nat} {v : MfaMethod × EmailPurpose} (accepted : s.Accepted other v) :
      (s.send security place draw call).Accepted other v := by
    obtain ⟨entry, mem, facts⟩ := accepted
    exact ⟨entry, List.mem_append_left _ mem, facts⟩
  have inside : ∀ entry ∈ (s.send security place draw call).log,
      entry.place < (s.send security place draw call).calls.length := by
    intro entry mem
    simp only [MfaRun.send, List.length_set]
    rcases MfaRun.mem_send_log.mp mem with old | ⟨rfl, _⟩
    · exact vouched.inside entry old
    · exact (List.getElem?_eq_some_iff.mp found).1
  have told (none_ : (call.turn security s.keys s.account draw).event.bind Event.operates = none) :
      ∀ entry ∈ (s.send security place draw call).log, ∀ method purpose,
        entry.event.operates = some (some method, purpose) →
        (s.send security place draw call).Accepted entry.place (method, purpose) ∨
          entry.event = .operated .deleteAccount (some .email) := by
    intro entry mem method purpose is
    rcases MfaRun.mem_send_log.mp mem with old | ⟨_, _, new⟩
    · exact (vouched.authorised entry old method purpose is).imp_left keeps
    · rw [new, Option.bind_some, is] at none_
      cases none_
  cases turn_authority security s.keys s.account draw call with
  | quiet accepts operates pending vouch isOver =>
    rw [accepts] at accepting
    rw [operates] at operating
    simp only [Option.toList_none, List.map_nil, List.append_nil] at accepting operating
    refine ⟨inside, fun other result here is => ?_, fun other result v here is => ?_,
      fun other result here live => ?_, accepting ▸ vouched.acceptOnce, operating ▸ vouched.operateOnce,
      told operates⟩
    · rw [accepting]
      rcases MfaRun.send_calls found here with ⟨rfl, rfl⟩ | ⟨_, old⟩
      · exact vouched.pending other call found (pending is)
      · exact vouched.pending other result old is
    · rcases MfaRun.send_calls found here with ⟨rfl, rfl⟩ | ⟨_, old⟩
      · rcases vouch v is with ⟨before, posted⟩ | mailed
        · exact .inl (keeps ((vouched.vouched other call v found before).resolve_right posted))
        · exact .inr mailed
      · exact (vouched.vouched other result v old is).imp_left keeps
    · rw [operating]
      rcases MfaRun.send_calls found here with ⟨rfl, rfl⟩ | ⟨_, old⟩
      · exact vouched.unspent other call found fun is => live (isOver is)
      · exact vouched.unspent other result old live
  | @accepts v accepts operates before pending vouch =>
    rw [accepts] at accepting
    rw [operates] at operating
    simp only [Option.toList_none, List.map_nil, List.append_nil] at operating
    simp only [Option.toList_some, List.map_cons, List.map_nil] at accepting
    have untouched := vouched.pending place call found before
    have accepted : (s.send security place draw call).Accepted place v := by
      obtain ⟨event, there, is⟩ := Option.bind_eq_some_iff.mp accepts
      exact ⟨⟨place, s.keys.now, event⟩, MfaRun.mem_send_log.mpr (.inr ⟨rfl, rfl, there⟩), rfl, is⟩
    refine ⟨inside, fun other result here is => ?_, fun other result w here is => ?_,
      fun other result here live => ?_, ?_, operating ▸ vouched.operateOnce, told operates⟩
    · rcases MfaRun.send_calls found here with ⟨rfl, rfl⟩ | ⟨differs, old⟩
      · rw [pending] at is
        cases is
      · rw [accepting, List.mem_append, not_or]
        exact ⟨vouched.pending other result old is, by simpa using differs⟩
    · rcases MfaRun.send_calls found here with ⟨rfl, rfl⟩ | ⟨_, old⟩
      · exact .inl (vouch w is ▸ accepted)
      · exact (vouched.vouched other result w old is).imp_left keeps
    · rw [operating]
      rcases MfaRun.send_calls found here with ⟨rfl, rfl⟩ | ⟨_, old⟩
      · exact vouched.unspent other call found fun is => by simp [is, MfaCall.pending] at before
      · exact vouched.unspent other result old live
    · rw [accepting]
      exact List.Nodup.append vouched.acceptOnce (List.nodup_singleton _) (by simpa using untouched)
  | @logsIn checked event before isOver vouch =>
    refine vouched.carriesOut found event rfl before isOver inside fun method purpose is => ?_
    obtain ⟨rfl, rfl⟩ : checked = some method ∧ EmailPurpose.login = purpose := by
      simpa [Event.operates] using is
    exact .inl ((vouched.vouched place call _ found (vouch method rfl)).resolve_right fun mailed => by
      have loggingIn := vouch method rfl
      rw [mailed] at loggingIn
      cases loggingIn)
  | @operates operation checked event before isOver is =>
    refine vouched.carriesOut found event rfl before isOver inside fun method purpose told => ?_
    obtain ⟨rfl, rfl⟩ : checked = some method ∧ operation.purpose = purpose := by
      simpa [Event.operates] using told
    have transaction := is method rfl
    refine (vouched.vouched place call (method, operation.purpose) found ?_).imp_right fun mailed => ?_
    · rw [transaction]
      rfl
    · rw [transaction] at mailed
      cases mailed
      rfl

end Vouched
end SwitchRemake.Auth.Mfa

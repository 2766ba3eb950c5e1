import SwitchRemake.Auth.SecondFactor
import Mathlib.Data.List.Nodup

/-!
# Factors are used once

A backup code is marked and a time step is stored by the statement that accepts it, so that neither
is accepted again.
-/

namespace SwitchRemake.Auth.Mfa
open Lib Redis

variable {security : Security} {s : MfaRun}

def Event.backupRow : Event → Option Nat
  | .accepted (.backup rowId) _ _ => some rowId
  | _ => none

def Event.totpStep : Event → Option Nat
  | .accepted (.totp step) _ _ => some step
  | _ => none

/-- What one kind of event says, in the order of the log. -/
def MfaRun.told {α : Type} (s : MfaRun) (f : Event → Option α) : List α :=
  s.log.filterMap fun entry => f entry.event

theorem told_send {α : Type} (security : Security) (s : MfaRun) (f : Event → Option α) (place : Nat) (draw : Draw) (call : MfaCall) :
    (s.send security place draw call).told f =
      s.told f ++ ((call.turn security s.keys s.account draw).event.bind f).toList := by
  simp only [MfaRun.told, MfaRun.send, List.filterMap_append]
  cases (call.turn security s.keys s.account draw).event with
  | none => simp
  | some event => cases told : f event <;> simp [told]

/-! ## The account -/

/-- What a turn can do to the account, and which factor it accepts thereby. -/
inductive AccountTurn (account : Account) (draw : Draw) (call : MfaCall) : Turned → Prop where
  | same {turned : Turned} (becomes : turned.account = account)
      (codes : turned.event.bind Event.backupRow = none)
      (steps : turned.event.bind Event.totpStep = none) : AccountTurn account draw call turned
  | backup {turned : Turned} {row : BackupCodeRow} (there : row ∈ account.backupCodes)
      (unused : row.used = false)
      (becomes : turned.account = { account with backupCodes := useBackup account.backupCodes row.id })
      (codes : turned.event.bind Event.backupRow = some row.id)
      (steps : turned.event.bind Event.totpStep = none) : AccountTurn account draw call turned
  | totp {turned : Turned} {setting next : MfaSetting} {step : Nat} (there : account.setting = some setting)
      (newer : ∀ last, setting.lastTotpStep = some last → last < step)
      (becomes : turned.account = { account with setting := some next })
      (stored : next.lastTotpStep = some step)
      (codes : turned.event.bind Event.backupRow = none)
      (steps : turned.event.bind Event.totpStep = some step) : AccountTurn account draw call turned
  | performs {turned : Turned} {operation : Operation} {authorization : MfaAuthorization}
      (is : call = .transaction operation authorization)
      (becomes : turned.account = perform account draw.rows operation)
      (codes : turned.event.bind Event.backupRow = none)
      (steps : turned.event.bind Event.totpStep = none) : AccountTurn account draw call turned

theorem turn_account (security : Security) (keys : MfaKeys) (account : Account) (draw : Draw) (call : MfaCall) :
    AccountTurn account draw call (call.turn security keys account draw) := by
  cases call with
  | backupUse request row =>
    simp only [MfaCall.turn]
    split
    · next there =>
      obtain ⟨other, mem, found⟩ := List.any_eq_true.mp there
      have facts : other.id = row.id ∧ other.used = false := by simpa using found
      exact .backup mem facts.2 (by rw [facts.1]) (by simp [Event.backupRow, facts.1])
        (by simp [Event.totpStep])
    · exact .same rfl rfl rfl
  | totpUse request secret step =>
    simp only [MfaCall.turn]
    cases there : account.setting with
    | none => exact .same rfl rfl rfl
    | some setting =>
      dsimp only
      split
      · next newer =>
        refine .totp there (fun last stored => ?_) rfl rfl (by simp [Event.backupRow])
          (by simp [Event.totpStep])
        simpa [stored] using newer.2
      · exact .same rfl rfl rfl
  | transaction operation authorization =>
    simp only [MfaCall.turn]
    split
    · cases authorized account operation authorization with
      | none => exact .same rfl rfl rfl
      | some checked => exact .performs rfl rfl (by simp [Event.backupRow]) (by simp [Event.totpStep])
    · exact .same rfl rfl rfl
  | loginClaim token code state =>
    simp only [MfaCall.turn]
    split
    · exact .same rfl rfl rfl
    · exact .same rfl (by simp [Event.backupRow]) (by simp [Event.totpStep])
  | mailed request =>
    simp only [MfaCall.turn]
    split
    · exact .same rfl (by simp [Event.backupRow]) (by simp [Event.totpStep])
    · exact .same rfl rfl rfl
  | createSession state =>
    simp only [MfaCall.turn]
    split
    · exact .same rfl (by simp [Event.backupRow]) (by simp [Event.totpStep])
    · exact .same rfl rfl rfl
  | beginStore state | loginDone attempt =>
    exact .same rfl (by simp [MfaCall.turn, Event.backupRow]) (by simp [MfaCall.turn, Event.totpStep])
  | beginSend | loginRead | readMethod | readSetting | backupRead | release | isOver => exact .same rfl rfl rfl

/-! ## Backup codes -/

structure CodesOnce (s : MfaRun) : Prop where
  rows : (s.account.backupCodes.map BackupCodeRow.id).Nodup
  known : ∀ row ∈ s.account.backupCodes, row.id ∈ s.rowIds
  spent : ∀ id ∈ s.told Event.backupRow, id ∈ s.rowIds ∧
    ∀ row ∈ s.account.backupCodes, row.id = id → row.used = true
  once : (s.told Event.backupRow).Nodup

theorem mem_useBackup {rows : List BackupCodeRow} {id : Nat} {row : BackupCodeRow}
    (mem : row ∈ useBackup rows id) : ∃ before ∈ rows, before.id = row.id ∧
      (row.used = before.used ∨ row.used = true) ∧ (row.id = id → row.used = true) := by
  obtain ⟨before, there, rfl⟩ := List.mem_map.mp mem
  refine ⟨before, there, ?_⟩
  split <;> simp_all

theorem useBackup_ids (rows : List BackupCodeRow) (id : Nat) :
    (useBackup rows id).map BackupCodeRow.id = rows.map BackupCodeRow.id := by
  rw [useBackup, List.map_map]
  refine List.map_congr_left fun row _ => ?_
  simp only [Function.comp_apply]
  split <;> rfl

namespace CodesOnce

/-- The codes are as they were, fewer or other new ones, and no code is accepted. -/
theorem replaced (codes : CodesOnce s) {s' : MfaRun} (told : s'.told Event.backupRow = s.told Event.backupRow)
    (grows : s.rowIds ⊆ s'.rowIds) (rows : (s'.account.backupCodes.map BackupCodeRow.id).Nodup)
    (known : ∀ row ∈ s'.account.backupCodes, row ∈ s.account.backupCodes ∨
      row.id ∈ s'.rowIds ∧ row.id ∉ s.rowIds) : CodesOnce s' where
  rows := rows
  known row mem := by
    rcases known row mem with old | new
    · exact grows (codes.known row old)
    · exact new.1
  spent id mem := by
    obtain ⟨stored, marked⟩ := codes.spent id (told ▸ mem)
    refine ⟨grows stored, fun row here same => ?_⟩
    rcases known row here with old | new
    · exact marked row old same
    · exact absurd (same ▸ stored) new.2
  once := told ▸ codes.once

theorem send (codes : CodesOnce s) {place : Nat} {draw : Draw} {call : MfaCall}
    (found : s.calls[place]? = some call) (may : s.Allowed (.turn place draw)) :
    CodesOnce (s.send security place draw call) := by
  have told := told_send security s Event.backupRow place draw call
  have grows : s.rowIds ⊆ (s.send security place draw call).rowIds := List.subset_append_left _ _
  have account : (s.send security place draw call).account =
    (call.turn security s.keys s.account draw).account := rfl
  cases turn_account security s.keys s.account draw call with
  | same same backup _ =>
    rw [backup] at told
    refine codes.replaced (by simpa using told) grows ?_ fun row mem => .inl ?_
    · rw [account, same]
      exact codes.rows
    · rwa [account, same] at mem
  | totp _ _ same _ backup _ =>
    rw [backup] at told
    refine codes.replaced (by simpa using told) grows ?_ fun row mem => .inl ?_
    · rw [account, same]
      exact codes.rows
    · rwa [account, same] at mem
  | @backup row there unused same accepts _ =>
    rw [accepts] at told
    have fresh : row.id ∉ s.told Event.backupRow := fun mem => by
      have marked := (codes.spent row.id mem).2 row there rfl
      rw [unused] at marked
      cases marked
    have codesNow : (s.send security place draw call).account.backupCodes =
        useBackup s.account.backupCodes row.id := by rw [account, same]
    constructor
    · rw [codesNow, useBackup_ids]
      exact codes.rows
    · intro other mem
      rw [codesNow] at mem
      obtain ⟨before, old, same, _⟩ := mem_useBackup mem
      exact grows (same ▸ codes.known before old)
    · intro id mem
      rw [told, List.mem_append] at mem
      rw [codesNow]
      rcases mem with old | new
      · obtain ⟨stored, marked⟩ := codes.spent id old
        refine ⟨grows stored, fun other mem same => ?_⟩
        obtain ⟨before, here, ids, kept | done, _⟩ := mem_useBackup mem
        · exact kept.trans (marked before here (ids.trans same))
        · exact done
      · obtain rfl : id = row.id := by simpa using new
        refine ⟨grows (codes.known row there), fun other mem same => ?_⟩
        obtain ⟨_, _, _, _, marks⟩ := mem_useBackup mem
        exact marks same
    · rw [told]
      exact List.Nodup.append codes.once (List.nodup_singleton _) (by simpa using fresh)
  | @performs operation authorization is same backup _ =>
    rw [backup] at told
    subst is
    have cleared (none_ : (s.send security place draw (.transaction operation authorization)).account.backupCodes = [] ∨
        (s.send security place draw (.transaction operation authorization)).account.backupCodes =
          s.account.backupCodes) : CodesOnce (s.send security place draw (.transaction operation authorization)) := by
      refine codes.replaced (by simpa using told) grows ?_ fun row mem => .inl ?_
      · rcases none_ with empty | kept
        · simp [empty]
        · exact kept ▸ codes.rows
      · rcases none_ with empty | kept
        · simp [empty] at mem
        · exact kept ▸ mem
    cases operation with
    | regenerateBackupCodes =>
      have fresh : (draw.rows.map BackupCodeRow.id).Nodup ∧ ∀ row ∈ draw.rows, row.id ∉ s.rowIds := by
        simpa [MfaRun.Allowed, found] using may
      refine codes.replaced (by simpa using told) grows ?_ fun row mem => .inr ?_
      · rw [account, same]
        exact fresh.1
      · rw [account, same] at mem
        exact ⟨List.mem_append_right _ (List.mem_map_of_mem mem), fresh.2 row mem⟩
    | disable | deleteAccount => exact cleared (.inl (by rw [account, same]; rfl))
    | revokeTrustedDevice | resetPassword => exact cleared (.inr (by rw [account, same]; rfl))

end CodesOnce

/-! ## Time steps -/

structure StepsRise (s : MfaRun) : Prop where
  rising : (s.told Event.totpStep).Pairwise (· < ·)
  last : ∀ setting, s.account.setting = some setting → ∀ step ∈ s.told Event.totpStep,
    ∃ last, setting.lastTotpStep = some last ∧ step ≤ last

theorem StepsRise.send (steps : StepsRise s) {place : Nat} {draw : Draw} {call : MfaCall} :
    StepsRise (s.send security place draw call) := by
  have told := told_send security s Event.totpStep place draw call
  have account : (s.send security place draw call).account =
    (call.turn security s.keys s.account draw).account := rfl
  have kept (none_ : (call.turn security s.keys s.account draw).event.bind Event.totpStep = none)
      (settings : ∀ setting, (s.send security place draw call).account.setting = some setting →
        s.account.setting = some setting) : StepsRise (s.send security place draw call) := by
    rw [none_] at told
    have same : (s.send security place draw call).told Event.totpStep = s.told Event.totpStep := by
      simpa using told
    exact ⟨same ▸ steps.rising, fun setting there => same ▸ steps.last setting (settings setting there)⟩
  cases turn_account security s.keys s.account draw call with
  | same same _ totp => exact kept totp fun setting there => by rwa [account, same] at there
  | backup _ _ same _ totp => exact kept totp fun setting there => by rwa [account, same] at there
  | @performs operation authorization _ same _ totp =>
    refine kept totp fun setting there => ?_
    rw [account, same] at there
    cases operation with
    | disable | deleteAccount => cases there
    | regenerateBackupCodes | revokeTrustedDevice | resetPassword => exact there
  | @totp setting next step before newer same stored _ accepts =>
    rw [accepts] at told
    constructor
    · rw [told, List.pairwise_append]
      refine ⟨steps.rising, List.pairwise_singleton _ _, fun earlier mem later single => ?_⟩
      obtain rfl : later = step := by simpa using single
      obtain ⟨last, there, le⟩ := steps.last setting before earlier mem
      exact Nat.lt_of_le_of_lt le (newer last there)
    · intro now there earlier mem
      rw [account, same] at there
      obtain rfl := Option.some.inj there
      refine ⟨step, stored, ?_⟩
      rw [told, List.mem_append] at mem
      rcases mem with old | new
      · obtain ⟨last, kept, le⟩ := steps.last setting before earlier old
        exact Nat.le_of_lt (Nat.lt_of_le_of_lt le (newer last kept))
      · exact Nat.le_of_eq (by simpa using new)

end SwitchRemake.Auth.Mfa

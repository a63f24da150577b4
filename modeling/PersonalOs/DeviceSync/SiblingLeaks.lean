import PersonalOs.DeviceSync.ForeignBytes

/-!
# Hidden siblings after applies and acknowledgements

An apply cleans up the siblings of its row when it finds that row as the oldest unfinished one. A
row stays unfinished until the server has acknowledged it, so with an earlier event unacknowledged
nothing is cleaned: the rollback sibling of an update stays, and no later acknowledgement takes it
away.
-/

namespace PersonalOs.DeviceSync

open CallPrograms RecoveryRunsLemmas

variable {Bytes : Type}

/-! ## Applies and acknowledgements -/

/-- The Vault and the repository, with the events applied so far. -/
structure AppliedVault (Bytes : Type) where
  world : VaultWorld Bytes
  applied : List DeviceSyncEvent

inductive ApplyAction (Bytes : Type)
  | apply (event : DeviceSyncEvent) (verified : Option (VerifiedBytes Bytes))
      (download : Except DownloadFailure Bytes)
  | acknowledge (sequence : Nat)

section Runs

variable (platform : VaultPlatform Bytes)

def applySuccessfully (s : AppliedVault Bytes) (event : DeviceSyncEvent)
    (verified : Option (VerifiedBytes Bytes)) (download : Except DownloadFailure Bytes) :
    Option (AppliedVault Bytes) :=
  if event.eventSequence == s.world.repository.state.appliedSequence + 1 then
    match Routine.exec (applyEvent platform event verified download) () s.world with
    | ((.ok terminal, _), next) =>
      if terminal.outcome == .conflict then none else some ⟨next, s.applied ++ [event]⟩
    | ((.error _, _), _) => none
  else none

def acknowledge (s : AppliedVault Bytes) (sequence : Nat) : Option (AppliedVault Bytes) :=
  let call := s.world.repository.call (.recordServerAcknowledgement sequence)
  if call.rejection.isNone then
    some { s with world := { s.world with repository := call.repository } }
  else none

/-- Events applied one after another, acknowledged at any later points. -/
def applyMachine : Machine (AppliedVault Bytes) (ApplyAction Bytes) where
  Init := fun s => s.world.repository.Sound ∧ s.world.failing = false ∧ s.applied = []
  step := fun s action =>
    match action with
    | .apply event verified download => applySuccessfully platform s event verified download
    | .acknowledge sequence => acknowledge s sequence

def DeviceSyncEvent.stagedAt (event : DeviceSyncEvent) : Option Locator :=
  if isContentOperation event.operation then event.resultingLocator else none

def siblingsOf (event : DeviceSyncEvent) : List Locator :=
  match event.stagedAt with
  | some target => [tempOf platform target event.eventId, rollbackOf platform target event.eventId]
  | none => []

/-- Every row is acknowledged, or the event leaves no rollback sibling and finds none. -/
def CleansUp (s : AppliedVault Bytes) (event : DeviceSyncEvent) : Prop :=
  (∀ row ∈ s.world.repository.remoteApplyOperations, row.state = .serverAcknowledged) ∨
    (event.operation ≠ .updated ∧ ∀ target, event.stagedAt = some target →
      s.world.files (rollbackOf platform target event.eventId) = none)

/-- No event is about a hidden sibling of an earlier one, and each cleans up after itself. -/
def AppliesClean (s : AppliedVault Bytes) : ApplyAction Bytes → Prop
  | .apply event _ _ => CleansUp platform s event ∧
      ∀ earlier ∈ s.applied, ∀ sibling ∈ siblingsOf platform earlier,
        event.resultingLocator ≠ some sibling
  | .acknowledge _ => True

end Runs

namespace SiblingLeaksLemmas

open BlockedRecoveryLemmas ForeignBytesLemmas RepositoryRunsLemmas

variable {hl α : Type} {platform : VaultPlatform Bytes} {hlo hla : hl}
  {w v : VaultWorld Bytes} {a : α}

/-! ## Routines that returned -/

theorem storeCall_ok {it : RepositoryCall} {u : Unit}
    (ran : (storeCall it : VaultRoutine Bytes hl Unit).exec hlo w = ((.ok u, hla), v)) :
    (w.repository.call it).rejection = none ∧ hla = hlo ∧
      v = { w with repository := (w.repository.call it).repository } := by
  simp only [storeCall, Routine.exec_ask] at ran
  split at ran
  · next ha =>
    cases ran
    exact ⟨ha, rfl, rfl⟩
  · cases ran

theorem storeCatch_ok {s : ApplyFailureStage} {b : VaultRoutine Bytes hl α}
    (ran : (storeCatch s b).exec hlo w = ((.ok a, hla), v)) :
    b.exec hlo w = ((.ok a, hla), v) := by
  rcases Routine.exec_tryCatch_ok ran with ran | ⟨e, i, u, -, ran⟩
  · exact ran
  · split at ran
    · cases ran
    · obtain ⟨_, _, _, -, ran⟩ := Routine.exec_bind_ok ran
      obtain ⟨_, _, _, -, ran⟩ := Routine.exec_bind_ok ran
      cases ran

theorem atStage_ok {ra : AtomicVaultMutationStage} {b : VaultRoutine Bytes hl α}
    (ran : (atStage ra b).exec hlo w = ((.ok a, hla), v)) :
    b.exec hlo w = ((.ok a, hla), v) := by
  rcases Routine.exec_tryCatch_ok ran with ran | ⟨e, i, u, -, ran⟩
  · exact ran
  · cases ran

theorem wrapping_ok {s : ApplyFailureStage} {re : DeviceSyncReason} {r : Bool}
    {b : VaultRoutine Bytes hl α}
    (ran : (wrapping s re r b).exec hlo w = ((.ok a, hla), v)) :
    b.exec hlo w = ((.ok a, hla), v) := by
  rcases Routine.exec_tryCatch_ok ran with ran | ⟨e, i, u, -, ran⟩
  · exact ran
  · cases ran

/-! ## The replace -/

section Replace

variable {content : ContentApplyInput Bytes} {it : AtomicVaultMutationInput Bytes}
  {hse hle : SequencedLocals} {hh : Bool}

theorem stageBytes_ok {u : Unit} (ha : w.failing = false)
    (ran : (stageBytes platform (sequencedSeam platform content) it).exec hse w =
      ((.ok u, hle), v)) :
    hle = hse ∧ v = w.withFile (tempOf platform it.targetLocator it.tempToken) (some it.bytes) := by
  obtain ⟨_, i, s, ran, hr⟩ := Routine.exec_bind_ok ran
  have hs : i = hse ∧ s = w.withFile (tempOf platform it.targetLocator it.tempToken)
        (some it.bytes) := by
    have hb := atStage_ok ran
    simp only [sequencedSeam, Routine.exec_bind, exec_locatorExists ha] at hb
    split at hb
    · next hp =>
      simp only [Routine.exec_bind, exec_trashLocator ha, hp, if_true] at hb
      rw [exec_createFile (by simpa using ha)] at hb
      cases hb
      simp [VaultWorld.withFile]
    · rw [exec_createFile ha] at hb
      cases hb
      exact ⟨rfl, rfl⟩
  obtain ⟨rfl, rfl⟩ := hs
  obtain ⟨b, i, r, ran, hr⟩ := Routine.exec_bind_ok hr
  have hb := atStage_ok ran
  simp only [sequencedSeam, Routine.exec_bind] at hb
  rw [exec_readBytes (by simpa using ha)] at hb
  simp only [VaultWorld.withFile_files, Function.update_self, Option.isNone_some, Bool.false_and,
    Bool.false_eq_true, if_false, Routine.exec_get, Routine.exec_pure] at hb
  cases hb
  split at hr
  · cases hr
    exact ⟨rfl, rfl⟩
  · obtain ⟨_, _, _, -, ht⟩ := Routine.exec_bind_ok hr
    cases ht

theorem proveBase_ok (ha : w.failing = false)
    (ran : (proveBase platform (sequencedSeam platform content) it).exec hse w =
      ((.ok hh, hle), v)) :
    hle = hse ∧ v = w ∧ hh = (w.files it.targetLocator).isSome := by
  obtain ⟨b, i, r, ran, hr⟩ := Routine.exec_bind_ok ran
  have hb := atStage_ok ran
  simp only [sequencedSeam, Routine.exec_bind, exec_readBytes ha, Routine.exec_get] at hb
  split at hb
  · cases hb
  · cases hb
    split at hr
    · obtain ⟨_, _, _, -, ht⟩ := Routine.exec_bind_ok hr
      cases ht
    · cases hr
      exact ⟨rfl, rfl, rfl⟩

theorem sequencedRename_ok {u : Unit} {p : CallPlace} {fl tl : Locator}
    (ran : ((sequencedSeam platform content).renameLocator p fl tl).exec
      hse w = ((.ok u, hle), v)) :
    hle.hasDurableProof = true ∧ ∃ repository,
      (if hse.hasDurableProof then repository = w.repository else
        let c := w.repository.call (.transitionRemoteApply
          ⟨content.eventSequence, .tempVerified, some (some content.tempToken), none⟩)
        c.rejection = none ∧ repository = c.repository) ∧
      v = { w.rename fl tl with repository := repository } := by
  obtain ⟨hlo, i, u, got, hr⟩ := Routine.exec_bind_ok ran
  cases got
  split at hr
  · next hu =>
    obtain ⟨_, i, u, hs, hr⟩ := Routine.exec_bind_ok hr
    cases hs
    obtain ⟨_, i, u, ran, hr⟩ := Routine.exec_bind_ok hr
    rcases Routine.exec_tryCatch_ok ran with ran | ⟨_, _, _, -, ran⟩
    · obtain ⟨ha, rfl, rfl⟩ := storeCall_ok ran
      rw [exec_renameLocator] at hr
      split at hr
      · cases hr
        simp only [Bool.not_eq_true'] at hu
        simp only [hu, Bool.false_eq_true, if_false]
        exact ⟨trivial, _, ⟨ha, rfl⟩, rfl⟩
      · cases hr
    · obtain ⟨_, _, _, -, ht⟩ := Routine.exec_bind_ok ran
      cases ht
  · next hp =>
    simp only [Bool.not_eq_true', Bool.not_eq_false] at hp
    rw [exec_renameLocator] at hr
    split at hr
    · cases hr
      simp only [hp, if_true]
      exact ⟨trivial, _, rfl, rfl⟩
    · cases hr

structure Replaced (platform : VaultPlatform Bytes) (content : ContentApplyInput Bytes)
    (w v : VaultWorld Bytes) : Prop where
  failing : v.failing = w.failing
  staged : v.files (tempOf platform content.targetLocator content.tempToken) = none
  elsewhere : ∀ locator, locator ≠ content.targetLocator →
    locator ≠ rollbackOf platform content.targetLocator content.tempToken →
    v.files locator ≠ none → w.files locator ≠ none
  rollback : w.files content.targetLocator = none →
    v.files (rollbackOf platform content.targetLocator content.tempToken) =
      w.files (rollbackOf platform content.targetLocator content.tempToken)
  repository : v.repository = w.repository ∨
    let call := w.repository.call (.transitionRemoteApply
      ⟨content.eventSequence, .tempVerified, some (some content.tempToken), none⟩)
    call.rejection = none ∧ v.repository = call.repository

theorem replaceTarget_ok {u : Unit} (hta : it.targetLocator = content.targetLocator)
    (hto : it.tempToken = content.tempToken) {s : VaultWorld Bytes}
    (hs : s = w.withFile (tempOf platform content.targetLocator content.tempToken) (some it.bytes))
    (ran : (replaceTarget platform (sequencedSeam platform content) it
      (w.files content.targetLocator).isSome).exec hse s = ((.ok u, hle), v)) :
    Replaced platform content w v := by
  have hb := atStage_ok ran
  simp only [hta, hto] at hb
  have htr (repository : DeviceSyncRepository)
      (hv : if hse.hasDurableProof then repository = w.repository else
        let c := w.repository.call (.transitionRemoteApply
          ⟨content.eventSequence, .tempVerified, some (some content.tempToken), none⟩)
        c.rejection = none ∧ repository = c.repository) :
      repository = w.repository ∨ let c := w.repository.call (.transitionRemoteApply
          ⟨content.eventSequence, .tempVerified, some (some content.tempToken), none⟩)
        c.rejection = none ∧ repository = c.repository := by
    by_cases hpr : hse.hasDurableProof
    · rw [if_pos hpr] at hv
      exact .inl hv
    · rw [if_neg hpr] at hv
      exact .inr hv
  have he : s.repository = w.repository := by rw [hs]; rfl
  cases ho : w.files content.targetLocator with
  | none =>
    simp only [ho, Option.isSome_none, Bool.false_eq_true, if_false] at hb
    obtain ⟨-, repository, hv, hm⟩ := sequencedRename_ok hb
    rw [he] at hv
    subst hm hs
    refine ⟨by simp, by simp, fun l haw hap hp => ?_, fun _ => ?_, ?_⟩
    · by_cases ht : l = tempOf platform content.targetLocator content.tempToken
      · subst ht
        simp at hp
      · simpa [haw, ht] using hp
    · simp [(tempOf_ne_rollbackOf platform).symm]
    · exact htr repository hv
  | some old =>
    simp only [ho, Option.isSome_some, if_true] at hb
    obtain ⟨_, i, ae, ran, hr⟩ := Routine.exec_bind_ok hb
    obtain ⟨hpr, repository, hv, ha⟩ := sequencedRename_ok ran
    obtain ⟨-, f, hk, hm⟩ := sequencedRename_ok hr
    rw [if_pos hpr, ha] at hk
    rw [he] at hv
    subst hm hk ha hs
    refine ⟨by simp, by simp, fun l haw hap hp => ?_, by simp [ho], ?_⟩
    · by_cases ht : l = tempOf platform content.targetLocator content.tempToken
      · subst ht
        simp at hp
      · simpa [haw, ht, hap] using hp
    · exact htr _ hv

theorem verifyFinal_ok {u : Unit} (ha : w.failing = false)
    (ran : (verifyFinal platform (sequencedSeam platform content) it hh).exec hse w
      = ((.ok u, hle), v)) : v = w := by
  obtain ⟨b, i, r, ran, hr⟩ := Routine.exec_bind_ok ran
  have hb := atStage_ok ran
  simp only [sequencedSeam, Routine.exec_bind, exec_readBytes ha, Routine.exec_get] at hb
  split at hb
  · cases hb
  · cases hb
    split at hr
    · cases hr
      rfl
    split at hr
    · obtain ⟨_, _, _, -, ht⟩ := Routine.exec_bind_ok hr
      cases ht
    · cases hr

theorem sequencedReplace_ok (ha : w.failing = false)
    (ran : (sequencedReplace platform content).exec hse w = ((.ok hh, hle), v)) :
    Replaced platform content w v := by
  rcases Routine.exec_tryCatch_ok ran with hb | ⟨_, _, _, -, hc⟩
  · obtain ⟨_, _, s, hst, hp⟩ := Routine.exec_bind_ok hb
    obtain ⟨rfl, hs⟩ := stageBytes_ok ha hst
    have han : s.failing = false := by rw [hs]; exact ha
    obtain ⟨_, _, p, hpr, hre⟩ := Routine.exec_bind_ok hp
    obtain ⟨rfl, rfl, rfl⟩ := proveBase_ok han hpr
    obtain ⟨_, _, m, hm, hv⟩ := Routine.exec_bind_ok hre
    have hta : (p.files content.targetLocator).isSome = (w.files content.targetLocator).isSome := by
      rw [hs, VaultWorld.withFile_files, Function.update_of_ne (tempOf_ne platform).symm]
    have hr : Replaced platform content w m := by
      dsimp only at hm
      rw [hta] at hm
      exact replaceTarget_ok rfl rfl hs hm
    obtain ⟨_, _, f, hve, hrd⟩ := Routine.exec_bind_ok hv
    have he := verifyFinal_ok (hr.failing.trans ha) hve
    cases hrd
    rw [he]
    exact hr
  · obtain ⟨_, _, _, -, ht⟩ := Routine.exec_bind_ok hc
    split at ht <;> cases ht

theorem stageAndReplace_ok {m : VerifiedVaultMutation} (ha : w.failing = false)
    (ran : (stageAndReplace platform content : VaultRoutine Bytes hl _).exec hlo w =
      ((.ok m, hla), v)) :
    Replaced platform content w v ∧
      (content.operation ≠ .updated → w.files content.targetLocator = none) := by
  simp only [stageAndReplace, Routine.exec_bind, exec_locatorExists ha] at ran
  split at ran
  · cases ran
  split at ran
  · cases ran
  next hn =>
  constructor
  · obtain ⟨_, _, u, ran, hr⟩ := Routine.exec_bind_ok ran
    rw [Routine.exec_block] at ran
    split at ran
    · next hb =>
      cases ran
      cases hr
      exact sequencedReplace_ok ha hb
    · cases ran
  · intro hno
    simpa [hno] using hn

end Replace

/-! ## The change of the Vault -/

section Mutate

variable {event : DeviceSyncEvent}

/-- No file appears but at the locators said. -/
def Grows (w v : VaultWorld Bytes) (at_ : Locator → Prop) : Prop :=
  ∀ locator, ¬at_ locator → v.files locator ≠ none → w.files locator ≠ none

theorem readOrNull_ok {l : Locator} {s : ApplyFailureStage} {b : Option Bytes}
    (ha : w.failing = false)
    (ran : (readOrNull platform l s : VaultRoutine Bytes hl _).exec hlo w =
      ((.ok b, hla), v)) : hla = hlo ∧ v = w := by
  have hb := wrapping_ok ran
  rw [exec_readBytes ha] at hb
  cases hb
  exact ⟨rfl, rfl⟩

theorem renameOrMove_ok {it : LocatorApplyInput} {m : VerifiedVaultMutation}
    (ha : w.failing = false)
    (ran : (renameOrMove platform it : VaultRoutine Bytes hl _).exec hlo w = ((.ok m, hla), v)) :
    v.failing = false ∧ v.repository = w.repository ∧ Grows w v (· = it.targetLocator) := by
  simp only [renameOrMove, Routine.exec_bind, exec_locatorExists ha] at ran
  split at ran
  · cases ran
  obtain ⟨_, _, _, hre, hrt⟩ := Routine.exec_bind_ok ran
  obtain ⟨rfl, rfl⟩ := readOrNull_ok ha hre
  split at hrt
  · cases hrt
  obtain ⟨_, _, mo, hm, hf⟩ := Routine.exec_bind_ok hrt
  have hb := wrapping_ok hm
  rw [exec_renameLocator] at hb
  split at hb
  · cases hb
    obtain ⟨_, _, _, hre, hr⟩ := Routine.exec_bind_ok hf
    obtain ⟨rfl, rfl⟩ := readOrNull_ok (by simpa using ha) hre
    split at hr
    · obtain ⟨_, _, _, -, ht⟩ := Routine.exec_bind_ok hr
      cases ht
    · cases hr
      refine ⟨ha, rfl, fun l haw hp => ?_⟩
      simp only [VaultWorld.rename_files, Function.update_of_ne haw] at hp
      by_cases hpr : l = it.priorLocator
      · subst hpr
        simp at hp
      · rwa [Function.update_of_ne hpr] at hp
  · cases hb

theorem trash_ok {it : TombstoneApplyInput} {m : VerifiedVaultMutation} (ha : w.failing = false)
    (ran : (trash platform it : VaultRoutine Bytes hl _).exec hlo w = ((.ok m, hla), v)) :
    v.failing = false ∧ v.repository = w.repository ∧ Grows w v fun _ => False := by
  obtain ⟨_, _, _, hrd, hr⟩ := Routine.exec_bind_ok ran
  obtain ⟨rfl, rfl⟩ := readOrNull_ok ha hrd
  split at hr
  · cases hr
    exact ⟨ha, rfl, fun _ _ => id⟩
  split at hr
  · cases hr
  obtain ⟨_, _, t, ht, hre⟩ := Routine.exec_bind_ok hr
  have hb := wrapping_ok ht
  rw [exec_trashLocator ha] at hb
  split at hb
  · cases hb
    cases hre
    refine ⟨ha, rfl, fun l _ hp => ?_⟩
    by_cases hh : l = it.priorLocator
    · subst hh
      simp at hp
    · simpa [hh] using hp
  · cases hb

/-- The durable transition of a staged replace, if it was due. -/
def ProvenStaged (event : DeviceSyncEvent) (repository next : DeviceSyncRepository) : Prop :=
  next = repository ∨
    let call := repository.call (.transitionRemoteApply
      ⟨event.eventSequence, .tempVerified, some (some event.eventId), none⟩)
    isContentOperation event.operation = true ∧ call.rejection = none ∧ next = call.repository

/-- What the change of the Vault leaves. -/
structure Mutated (platform : VaultPlatform Bytes) (event : DeviceSyncEvent)
    (w v : VaultWorld Bytes) : Prop where
  failing : v.failing = false
  repository : ProvenStaged event w.repository v.repository
  grows : Grows w v fun locator => event.resultingLocator = some locator ∨
    ∃ target, event.stagedAt = some target ∧ locator = rollbackOf platform target event.eventId
  staged : ∀ target, event.stagedAt = some target →
    v.files (tempOf platform target event.eventId) = none
  rollback : event.operation ≠ .updated → ∀ target, event.stagedAt = some target →
    v.files (rollbackOf platform target event.eventId) =
      w.files (rollbackOf platform target event.eventId)

theorem Mutated.unstaged (hn : event.stagedAt = none) (hf : v.failing = false)
    (he : v.repository = w.repository)
    (hg : Grows w v fun l => event.resultingLocator = some l) :
    Mutated platform event w v := by
  refine ⟨hf, .inl he, fun l ha => hg l fun at_ => ha (.inl at_), ?_, ?_⟩
  · intro t hs
    rw [hn] at hs
    cases hs
  · intro _ t hs
    rw [hn] at hs
    cases hs

theorem mutated_replaced {content : ContentApplyInput Bytes}
    (hc : isContentOperation event.operation = true)
    (hta : event.resultingLocator = some content.targetLocator)
    (hto : content.tempToken = event.eventId) (hse : content.eventSequence =
      event.eventSequence) (ha : w.failing = false)
    (hr : Replaced platform content w v)
    (hab : event.operation ≠ .updated → w.files content.targetLocator = none) :
    Mutated platform event w v := by
  have hs : event.stagedAt = some content.targetLocator := by
    rw [DeviceSyncEvent.stagedAt, if_pos hc, hta]
  refine ⟨hr.failing.trans ha, ?_, fun l haw => ?_, ?_, ?_⟩
  · rw [ProvenStaged, ← hse, ← hto]
    rcases hr.repository with he | hp
    · exact .inl he
    · exact .inr ⟨hc, hp⟩
  · refine hr.elsewhere l (fun he => haw (.inl (he ▸ hta))) fun he => ?_
    exact haw (.inr ⟨_, hs, hto ▸ he⟩)
  · rintro _ ht
    cases hs.symm.trans ht
    rw [← hto]
    exact hr.staged
  · rintro hn _ ht
    cases hs.symm.trans ht
    rw [← hto]
    exact hr.rollback (hab hn)

theorem mutateVault_ok {b : Option Bytes} {u : Unit} (ha : w.failing = false)
    (hco : event.missingOperand = false)
    (ran : (mutateVault platform event b).exec hlo w = ((.ok u, hla), v)) :
    Mutated platform event w v := by
  unfold mutateVault at ran
  split at ran
  · next hd =>
    obtain ⟨_, _, _, htr, hr⟩ := Routine.exec_bind_ok ran
    cases hr
    obtain ⟨hf, he, hg⟩ := trash_ok ha htr
    refine .unstaged ?_ hf he fun l _ => hg l id
    have ho : event.operation = .deleted := by simpa using hd
    simp [DeviceSyncEvent.stagedAt, ho, isContentOperation]
  next hno =>
  split at ran
  · next rp hl _ =>
    obtain ⟨_, _, _, hrd, hr⟩ := Routine.exec_bind_ok ran
    cases hr
    obtain ⟨hf, he, hg⟩ := renameOrMove_ok ha hrd
    refine .unstaged ?_ hf he fun l haw => hg l fun ht => haw ?_
    · cases ho : event.operation <;>
        simp_all [DeviceSyncEvent.stagedAt, isContentOperation, isLocatorOperation]
    · have hs : event.targetLocatorOf = event.resultingLocator := by
        cases ho : event.operation <;>
          simp_all [DeviceSyncEvent.targetLocatorOf, isLocatorOperation]
      cases hh : event.resultingLocator with
      | none => simp [DeviceSyncEvent.missingOperand, hl, hs, hh] at hco
      | some t => simp [ht, hs, hh]
  · next hnd =>
    split at ran
    · next t ff s hfo hfi =>
      obtain ⟨_, _, _, hre, hr⟩ := Routine.exec_bind_ok ran
      cases hr
      obtain ⟨hre, hn⟩ := stageAndReplace_ok ha hre
      have hc : isContentOperation event.operation = true := by
        cases ho : event.operation <;> simp_all [isContentOperation, isLocatorOperation]
      have ht : event.resultingLocator = some t := by
        cases ho : event.operation <;>
          simp_all [isContentOperation, DeviceSyncEvent.contentTargetLocator,
            DeviceSyncEvent.targetLocatorOf, DeviceSyncEvent.priorLocatorOf]
      exact mutated_replaced hc ht rfl rfl ha hre hn
    · obtain ⟨_, _, _, -, hth⟩ := Routine.exec_bind_ok ran
      cases hth

end Mutate

/-! ## The rows of an apply -/

section Rows

variable {event : DeviceSyncEvent} {repository : DeviceSyncRepository}

theorem lift_ok {m : Mutation} (ha : (repository.lift m).rejection = none) : ∃ n, m = .ok n ∧
      (repository.lift m).repository.remoteApplyOperations = n.remoteApplyOperations := by
  rcases m with r | n
  · cases ha
  · exact ⟨n, rfl, rfl⟩

theorem prepare_ok (hs : repository.Sound)
    (ha : (repository.call (.prepareRemoteApply event.prepared)).rejection = none) :
    event.OwnsRows (repository.call (.prepareRemoteApply event.prepared)).repository ∧
      ∀ row ∈ (repository.call (.prepareRemoteApply event.prepared)).repository.remoteApplyOperations,
        row.eventSequence ≠ event.eventSequence → row ∈ repository.remoteApplyOperations := by
  obtain ⟨n, hc, hsa⟩ := lift_ok ha
  unfold DeviceSyncEvent.OwnsRows
  simp only [DeviceSyncRepository.call, hsa]
  rcases Repository.prepareRemoteApply_cases hc with ⟨rfl, e, hf, ho⟩ | ⟨hn, rfl⟩
  · refine ⟨fun row hm hh => ?_, fun row hm _ => hm⟩
    rw [eq_of_readRemoteApply hs.lattice hf hm hh]
    unfold DeviceSyncEvent.Owns
    rw [ho]
    rfl
  · constructor
    · intro row hm hh
      rcases List.mem_append.mp hm with old | new
      · have hmi := List.find?_eq_none.mp hn row old
        exact absurd hh (by simpa [DeviceSyncEvent.prepared] using hmi)
      · rw [List.mem_singleton.mp new]
        rfl
    · intro row hm he
      rcases List.mem_append.mp hm with old | new
      · exact old
      · rw [List.mem_singleton.mp new] at he
        exact absurd rfl he

theorem transition_ok {it : RemoteApplyTransition}
    (ha : (repository.call (.transitionRemoteApply it)).rejection = none) :
    let n := (repository.call (.transitionRemoteApply it)).repository.remoteApplyOperations
    (∃ row ∈ n, row.eventSequence = it.eventSequence) ∧
      (∀ row ∈ n, row.eventSequence = it.eventSequence → row.state = it.state) ∧
      ∀ row ∈ n, row.eventSequence ≠ it.eventSequence → row ∈ repository.remoteApplyOperations := by
  simp only [DeviceSyncRepository.call] at ha ⊢
  split at ha
  · cases ha
  next hp =>
  rw [if_neg hp]
  obtain ⟨n, hc, hs⟩ := lift_ok ha
  rw [hs]
  obtain ⟨o, hf, -, rfl⟩ := Repository.transitionRemoteApply_cases hc
  have hhe : o.eventSequence = it.eventSequence := by
    simpa using List.find?_some hf
  refine ⟨⟨_, List.mem_map.mpr ⟨o, List.mem_of_find?_eq_some hf, rfl⟩, ?_⟩, ?_, ?_⟩
  · rw [if_pos (by simpa using hhe)]
    exact hhe
  · intro row hm hh
    obtain ⟨old, _, rfl⟩ := List.mem_map.mp hm
    split at hh
    · next hs => rw [if_pos hs]
    · next ho => exact absurd hh (by simpa using ho)
  · intro row hm he
    obtain ⟨old, hol, rfl⟩ := List.mem_map.mp hm
    split at he
    · next hs => exact absurd (by simpa using hs) he
    · next ho =>
      rw [if_neg ho]
      exact hol

structure ApplyRows (event : DeviceSyncEvent) (start repository : DeviceSyncRepository) : Prop where
  sound : repository.Sound
  owned : event.OwnsRows repository
  others : ∀ row ∈ repository.remoteApplyOperations, row.eventSequence ≠ event.eventSequence →
    row ∈ start.remoteApplyOperations

theorem applyRows_proven {s n : DeviceSyncRepository} (hr : ApplyRows event s repository)
    (hp : ProvenStaged event repository n) : ApplyRows event s n := by
  rcases hp with rfl | ⟨hc, ha, rfl⟩
  · exact hr
  · refine ⟨sound_call hr.sound _, owns_call hr.owned (.inr ?_), fun row hm he => ?_⟩
    · simp [DeviceSyncEvent.prepared, hc]
    · exact hr.others row ((transition_ok ha).2.2 row hm he) he

theorem unfinished_own {s : DeviceSyncRepository} (hro : ApplyRows event s repository)
    (hp : ∃ row ∈ repository.remoteApplyOperations, row.eventSequence = event.eventSequence ∧
      row.state ≠ .serverAcknowledged)
    (hs : ∀ row ∈ s.remoteApplyOperations, row.state = .serverAcknowledged) :
    ∃ row, repository.readUnfinishedApply = some row ∧ row.eventSequence = event.eventSequence := by
  cases hr : repository.readUnfinishedApply with
  | none =>
    obtain ⟨row, hm, -, ho⟩ := hp
    exact absurd (unfinished_none hr row hm) ho
  | some row =>
    obtain ⟨hm, ho⟩ := unfinished_mem hr
    refine ⟨row, rfl, Decidable.byContradiction fun he => ?_⟩
    exact ho (hs row (hro.others row hm he))

end Rows

/-! ## The cleanup and the whole apply -/

section Complete

variable {event : DeviceSyncEvent} {row : RemoteApplyOperation}

/-- What a cleanup leaves: fewer files, and the rest of the world but for observations. -/
structure Cleaned (w v : VaultWorld Bytes) : Prop where
  failing : v.failing = w.failing
  repository : v.repository = w.repository
  fewer : Grows w v fun _ => False

theorem Cleaned.refl : Cleaned w w := ⟨rfl, rfl, fun _ _ => id⟩

theorem cleaned_siblings (t : Locator) (tk : Nat) :
    Cleaned w ((w.withFile (tempOf platform t tk) none).withFile
      (rollbackOf platform t tk) none) := by
  refine ⟨by simp, by simp, fun l _ hp => ?_⟩
  by_cases hr : l = rollbackOf platform t tk
  · subst hr
    simp at hp
  by_cases ht : l = tempOf platform t tk
  · subst ht
    simp [hr] at hp
  · simpa [hr, ht] using hp

theorem recoverVaultMutated_cleans (platform : VaultPlatform Bytes)
    (row : RemoteApplyOperation) (hlo : hl) (ha : w.failing = false) :
    ∃ ve u, (recoverVaultMutated platform row).exec hlo w = ((.ok ve, hlo), u) ∧
      Cleaned w u ∧ ∀ t tk, contentTargetOf row = some t →
        row.tempToken = some tk → u.files (tempOf platform t tk) = none ∧
          u.files (rollbackOf platform t tk) = none := by
  have hcs : ∃ u, (cleanSiblingsOf platform row).exec hlo w = ((.ok none, hlo), u) ∧
      Cleaned w u ∧ ∀ t tk, contentTargetOf row = some t →
        row.tempToken = some tk → u.files (tempOf platform t tk) = none ∧
          u.files (rollbackOf platform t tk) = none := by
    cases content : contentTargetOf row with
    | none => exact ⟨w, exec_cleanSiblingsOf_none (.inl content), .refl, nofun⟩
    | some t =>
      cases hs : row.tempToken with
      | none => exact ⟨w, exec_cleanSiblingsOf_none (.inr hs), .refl, fun _ _ _ => nofun⟩
      | some tk =>
        refine ⟨_, exec_cleanSiblingsOf ha content hs, cleaned_siblings _ _, ?_⟩
        rintro _ _ ⟨⟩ ⟨⟩
        simp
  obtain ⟨u, hcl, hc, hg⟩ := hcs
  have han : u.failing = false := hc.failing.trans ha
  simp only [recoverVaultMutated, Routine.exec_bind, hcl]
  split
  · exact ⟨_, _, rfl, hc, hg⟩
  generalize (if row.operation == .renamed || row.operation == .moved then row.targetLocator
    else contentTargetOf row) = pl
  cases pl <;> simp only [Routine.exec_bind, Routine.exec_pure, exec_readBytes han] <;>
    split_ifs <;> exact ⟨_, _, rfl, hc, hg⟩

theorem observes_recovery (hlo : hl) (w : VaultWorld Bytes) (r : VaultRecovery) : ∃ u,
    (observeRecovery r).exec hlo w = ((.ok (), hlo), u) ∧ u.failing = w.failing ∧
      u.repository = w.repository ∧ u.files = w.files := by
  cases r with
  | blocked re => exact ⟨_, rfl, rfl, rfl, rfl⟩
  | _ =>
    simp only [observeRecovery, observeCleanup]
    split <;> exact ⟨_, rfl, rfl, rfl, rfl⟩

theorem content_of_owned {t : Locator} (how : event.Owns row) (hs : event.stagedAt = some t) :
    contentTargetOf row = some t ∧ row.tempToken = some event.eventId := by
  have hop : row.operation = event.operation := congrArg PreparedRemoteApply.operation how
  have hp := congrArg PreparedRemoteApply.priorLocator how
  have hl := congrArg PreparedRemoteApply.targetLocator how
  have ht := congrArg PreparedRemoteApply.tempToken how
  unfold DeviceSyncEvent.stagedAt at hs
  split at hs
  · next hc =>
    refine ⟨?_, by simpa [DeviceSyncEvent.prepared, hc] using ht⟩
    cases ho : event.operation <;> rw [ho] at hop hc <;>
      simp_all [contentTargetOf, DeviceSyncEvent.prepared, DeviceSyncEvent.targetLocatorOf,
        DeviceSyncEvent.priorLocatorOf, isContentOperation]
  · cases hs

theorem cleanupApplied_ok {u : Unit} (ha : w.failing = false) (hod : event.OwnsRows w.repository)
    (hm : ∀ row ∈ w.repository.remoteApplyOperations,
      row.eventSequence = event.eventSequence → row.state = .vaultMutated)
    (ran : (cleanupApplied platform event).exec hlo w = ((.ok u, hla), v)) :
    Cleaned w v ∧ ∀ row, w.repository.readUnfinishedApply = some row →
      row.eventSequence = event.eventSequence → ∀ t, event.stagedAt = some t →
        v.files (tempOf platform t event.eventId) = none ∧
          v.files (rollbackOf platform t event.eventId) = none := by
  simp only [cleanupApplied, readRepository, Routine.exec_bind, Routine.exec_ask, id_eq] at ran
  split at ran
  · next row hre =>
    split at ran
    · next hh =>
      have hsa : row.eventSequence = event.eventSequence := by simpa using hh
      have how := owns_unfinished hod hre hsa
      have hst := hm row (unfinished_mem hre).1 hsa
      obtain ⟨ve, ct, hrd, hc, hg⟩ := recoverVaultMutated_cleans platform row hlo ha
      have haf : Cleaned w v ∧ v.files = ct.files := by
        obtain ⟨u', ho, hf, repository, hfi⟩ := observes_recovery hlo ct ve
        simp only [recoverApply, hst, Routine.exec_tryCatch, Routine.exec_bind, hrd, ho] at ran
        cases ran
        refine ⟨⟨hf.trans hc.failing, repository.trans hc.repository, ?_⟩, hfi⟩
        unfold Grows
        rw [hfi]
        exact hc.fewer
      refine ⟨haf.1, fun o hr _ t hs => ?_⟩
      rw [hre] at hr
      cases hr
      obtain ⟨content, ht⟩ := content_of_owned how hs
      rw [haf.2]
      exact hg t event.eventId content ht
    · next he =>
      cases ran
      refine ⟨.refl, fun o hr hh => ?_⟩
      rw [hre] at hr
      cases hr
      exact absurd hh (by simpa using he)
  · next hre =>
    cases ran
    refine ⟨.refl, fun o hr => ?_⟩
    rw [hre] at hr
    cases hr

theorem terminalize_ok {s : Nat} {outcome : TerminalOutcome}
    {r : Option DeviceSyncReason} {st : ApplyFailureStage} {t : TerminalDeviceEvent}
    (ran : (terminalize s outcome r st).exec hlo w = ((.ok t, hla), v)) :
    t.outcome = outcome ∧ v = { w with repository :=
        (w.repository.call (.terminalizeEvent ⟨s, outcome, r⟩)).repository } := by
  obtain ⟨_, _, _, hc, hr⟩ := Routine.exec_bind_ok ran
  obtain ⟨-, rfl, rfl⟩ := storeCall_ok (storeCatch_ok hc)
  cases hr
  exact ⟨rfl, rfl⟩

theorem downloadBytes_ok {ve : Option (VerifiedBytes Bytes)}
    {d : Except DownloadFailure Bytes} {b : Option Bytes}
    (ran : (downloadBytes event ve d).exec hlo w = ((.ok b, hla), v)) :
    v = w := by
  unfold downloadBytes at ran
  split at ran
  · split at ran
    · cases ran
      rfl
    · split at ran
      · cases ran
        rfl
      · cases ran
      · obtain ⟨_, _, _, -, ht⟩ := Routine.exec_bind_ok ran
        cases ht
  · cases ran
    rfl

theorem settleWriterFailure_ok {e : Thrown} {t : TerminalDeviceEvent}
    (ran : (settleWriterFailure event e).exec hlo w = ((.ok t, hla), v)) :
    t.outcome = .conflict := by
  unfold settleWriterFailure at ran
  split at ran
  · cases ran
  · obtain ⟨_, _, _, -, hs⟩ := Routine.exec_bind_ok ran
    split at hs
    · exact (terminalize_ok hs).1
    · cases hs
  · obtain ⟨_, _, _, -, hm⟩ := Routine.exec_bind_ok ran
    obtain ⟨_, _, _, -, ht⟩ := Routine.exec_bind_ok hm
    cases ht

theorem siblings_gone {f : Locator → Option Bytes} (hg : ∀ t, event.stagedAt = some t →
      f (tempOf platform t event.eventId) = none ∧ f (rollbackOf platform t event.eventId) = none) :
    ∀ s ∈ siblingsOf platform event, f s = none := by
  intro s hm
  unfold siblingsOf at hm
  split at hm
  · next t hs =>
    obtain ⟨ht, hr⟩ := hg t hs
    rcases List.mem_pair.mp hm with rfl | rfl
    · exact ht
    · exact hr
  · cases hm

/-- What a successful apply leaves: no sibling of its own, and no file but at its locator. -/
structure Leaves (platform : VaultPlatform Bytes) (event : DeviceSyncEvent)
    (w v : VaultWorld Bytes) : Prop where
  failing : v.failing = false
  sound : v.repository.Sound
  grows : Grows w v fun locator => event.resultingLocator = some locator
  siblings : ∀ sibling ∈ siblingsOf platform event, v.files sibling = none

theorem completeApply_ok {s m : VaultWorld Bytes} {te : TerminalDeviceEvent}
    (hro : ApplyRows event s.repository w.repository) (hsa : w.files = s.files)
    (hc : Mutated platform event w m)
    (hcn : (∀ row ∈ s.repository.remoteApplyOperations, row.state = .serverAcknowledged) ∨
      (event.operation ≠ .updated ∧ ∀ t, event.stagedAt = some t →
        s.files (rollbackOf platform t event.eventId) = none))
    (ran : (completeApply platform event).exec hlo m = ((.ok te, hla), v)) :
    Leaves platform event s v := by
  obtain ⟨_, _, p, htr, hre⟩ := Routine.exec_bind_ok ran
  obtain ⟨ha, rfl, hp⟩ := storeCall_ok (storeCatch_ok htr)
  obtain ⟨_, _, c, hcp, hcg⟩ := Routine.exec_bind_ok hre
  obtain ⟨-, rfl⟩ := terminalize_ok hcg
  have hs := applyRows_proven hro hc.repository
  obtain ⟨⟨row, hm, hh⟩, hst, ho⟩ := transition_ok ha
  have haf : ApplyRows event s.repository p.repository := by
    rw [hp]
    exact ⟨sound_call hs.sound _, owns_call hs.owned (.inl rfl), fun row hm he =>
      hs.others row (ho row hm he) he⟩
  have hf : p.files = m.files := by rw [hp]
  have hmu : ∀ row ∈ p.repository.remoteApplyOperations,
      row.eventSequence = event.eventSequence → row.state = .vaultMutated := by
    rw [hp]
    exact hst
  have hpr : ∃ row ∈ p.repository.remoteApplyOperations,
      row.eventSequence = event.eventSequence ∧ row.state ≠ .serverAcknowledged := by
    rw [hp]
    exact ⟨row, hm, hh, by rw [hst row hm hh]; exact nofun⟩
  obtain ⟨hcl, hta⟩ := cleanupApplied_ok (by rw [hp]; exact hc.failing) haf.owned hmu hcp
  have hab (l : Locator) (hg : m.files l = none) : c.files l = none := by
    refine Decidable.byContradiction fun hpr => ?_
    exact hcl.fewer l id hpr (by rw [hf]; exact hg)
  have hg : ∀ t, event.stagedAt = some t → c.files (tempOf platform t event.eventId) = none ∧
        c.files (rollbackOf platform t event.eventId) = none := by
    intro t ht
    rcases hcn with hse | ⟨hn, hv⟩
    · -- Every other row is acknowledged, so the cleanup finds the event's own.
      obtain ⟨own, hr, how⟩ := unfinished_own haf hpr hse
      exact hta own hr how t ht
    · refine ⟨hab _ (hc.staged t ht), hab _ ?_⟩
      rw [hc.rollback hn t ht, hsa]
      exact hv t ht
  refine ⟨hcl.failing.trans (by rw [hp]; exact hc.failing), ?_, ?_, siblings_gone hg⟩
  · refine sound_call ?_ _
    rw [hcl.repository]
    exact haf.sound
  · intro l haw hpr
    have hb : w.files l ≠ none := by
      refine hc.grows l ?_ ?_
      · rintro (hl | ⟨t, ht, rfl⟩)
        · exact haw hl
        · exact hpr (hg t ht).2
      · rw [← hf]
        exact hcl.fewer l id hpr
    rwa [hsa] at hb

theorem applyNext_ok {ve : Option (VerifiedBytes Bytes)}
    {d : Except DownloadFailure Bytes} {t : TerminalDeviceEvent}
    (han : w.failing = false) (hso : w.repository.Sound)
    (hco : event.missingOperand = false)
    (hcl : (∀ row ∈ w.repository.remoteApplyOperations, row.state = .serverAcknowledged) ∨
      (event.operation ≠ .updated ∧ ∀ tg, event.stagedAt = some tg →
        w.files (rollbackOf platform tg event.eventId) = none))
    (ran : (applyNext platform event ve d).exec hlo w = ((.ok t, hla), v))
    (hse : t.outcome ≠ .conflict) : Leaves platform event w v := by
  obtain ⟨_, _, p, hpr, hd⟩ := Routine.exec_bind_ok ran
  obtain ⟨_, _, i, hin, hma⟩ := Routine.exec_bind_ok (storeCatch_ok hpr)
  obtain ⟨hac, rfl, hi⟩ := storeCall_ok hin
  obtain ⟨-, rfl, hp⟩ := storeCall_ok hma
  obtain ⟨how, ho⟩ := prepare_ok hso hac
  have hro : ApplyRows event w.repository p.repository := by
    rw [hp, hi]
    refine ⟨sound_call (sound_call hso _) _, owns_call how trivial, ?_⟩
    rw [(call_sameRows rfl).rows]
    exact ho
  have hf : p.files = w.files := by rw [hp, hi]
  have ha : p.failing = false := by rw [hp, hi]; exact han
  obtain ⟨_, _, dd, hre, hcg⟩ := Routine.exec_bind_ok hd
  have hu := downloadBytes_ok hre
  obtain ⟨o, _, m, hm, hc⟩ := Routine.exec_bind_ok hcg
  rcases Routine.exec_tryCatch_ok hm with hch | ⟨e, _, _, -, hca⟩
  · obtain ⟨_, _, _, hch, hr⟩ := Routine.exec_bind_ok hch
    cases hr
    rw [← hu] at hro hf ha
    exact completeApply_ok hro hf (mutateVault_ok ha hco hch) hcl hc
  · obtain ⟨_, _, _, hs, hr⟩ := Routine.exec_bind_ok (f := fun t => pure (some t)) hca
    cases hr
    cases hc
    exact absurd (settleWriterFailure_ok hs) hse

end Complete

/-! ## Runs -/

/-- What holds along the runs: no sibling of an applied event is there. -/
structure NoSiblings (platform : VaultPlatform Bytes) (s : AppliedVault Bytes) : Prop where
  sound : s.world.repository.Sound
  answers : s.world.failing = false
  absent : ∀ event ∈ s.applied, ∀ sibling ∈ siblingsOf platform event,
    s.world.files sibling = none

theorem noSiblings_apply {s t : AppliedVault Bytes} {event : DeviceSyncEvent}
    {ve : Option (VerifiedBytes Bytes)} {d : Except DownloadFailure Bytes}
    (hno : NoSiblings platform s)
    (hcl : AppliesClean platform s (.apply event ve d))
    (hv : applySuccessfully platform s event ve d = some t) :
    NoSiblings platform t := by
  unfold applySuccessfully at hv
  split at hv
  · next hne =>
    split at hv
    · next te _ n ran =>
      split at hv
      · cases hv
      next hn =>
      cases hv
      have hl : Leaves platform event s.world n := by
        simp only [applyEvent, readRepository, Routine.exec_bind, Routine.exec_ask, id_eq] at ran
        have hs : event.eventSequence = s.world.repository.state.appliedSequence + 1 := by
          simpa using hne
        rw [if_neg (by omega), if_neg (by simpa using hs)] at ran
        split at ran
        · obtain ⟨_, _, _, -, ht⟩ := Routine.exec_bind_ok ran
          cases ht
        · next hc =>
          exact applyNext_ok hno.answers hno.sound (by simpa using hc) hcl.1 ran (by simpa using hn)
      refine ⟨hl.sound, hl.failing, fun e hm si hna => ?_⟩
      rcases List.mem_append.mp hm with old | new
      · refine Decidable.byContradiction fun hp => ?_
        exact hl.grows si (hcl.2 e old si hna) hp (hno.absent e old si hna)
      · cases List.mem_singleton.mp new
        exact hl.siblings si hna
    · cases hv
  · cases hv

end SiblingLeaksLemmas

open SiblingLeaksLemmas in
/-- Along every run of successful applies and acknowledgements in which an update is applied over
acknowledged rows only, no sibling of an applied event is in the Vault, before the last
acknowledgement and after it. -/
theorem no_sibling_leaks (platform : VaultPlatform Bytes) {s : AppliedVault Bytes}
    (reached : (applyMachine platform).GuardedReachable (AppliesClean platform) s)
    (event : DeviceSyncEvent) (applied : event ∈ s.applied) :
    ∀ sibling ∈ siblingsOf platform event, s.world.files sibling = none := by
  suffices hc : NoSiblings platform s from hc.absent event applied
  refine reached.invariant ?_ ?_
  · rintro s ⟨hs, ha, hno⟩
    refine ⟨hs, ha, ?_⟩
    rw [hno]
    exact nofun
  · rintro s (⟨event, ve, d⟩ | se) t hn hc hv
    · exact noSiblings_apply hn hc hv
    · simp only [applyMachine, acknowledge] at hv
      split at hv
      · cases hv
        exact ⟨RepositoryRunsLemmas.sound_call hn.sound _, hn.answers, hn.absent⟩
      · cases hv
/-! ### Two updates of one page -/

/-- An update of a note, from `old` to `new`. -/
def updatedNote (eventId : Nat) (locator : Locator) : DeviceSyncEvent where
  eventId := eventId
  eventSequence := eventId
  operation := .updated
  sourceId := eventId
  originDeviceId := none
  baseVersionId := some 1
  currentVersionId := some 2
  baseFingerprint := some (textFingerprint "old")
  currentFingerprint := some (textFingerprint "new")
  priorLocator := none
  resultingLocator := some locator
  tombstoneId := none

def twoNotes : AppliedVault String where
  world := .answering fun locator =>
    if locator == "a.md" || locator == "b.md" then some "old" else none
  applied := []

def applyNote (eventId : Nat) (locator : Locator) : ApplyAction String :=
  .apply (updatedNote eventId locator) none (.ok "new")

theorem twoNotes_init : (applyMachine (textPlatform false)).Init twoNotes :=
  ⟨RepositoryRunsLemmas.sound_seeded, rfl, rfl⟩

/-- `AppliesClean`, checked, for runs over acknowledged rows. -/
def cleanCheck (platform : VaultPlatform String) (s : AppliedVault String) :
    ApplyAction String → Bool
  | .apply event _ _ =>
    (s.world.repository.remoteApplyOperations.all (·.state == .serverAcknowledged)) &&
      s.applied.all fun earlier => (siblingsOf platform earlier).all fun sibling =>
        event.resultingLocator != some sibling
  | .acknowledge _ => true

theorem cleanCheck_sound {platform : VaultPlatform String} (s : AppliedVault String)
    (ac : ApplyAction String) (hc : cleanCheck platform s ac = true) :
    AppliesClean platform s ac := by
  cases ac with
  | apply event ve d =>
    simp only [cleanCheck, Bool.and_eq_true, List.all_eq_true, beq_iff_eq, bne_iff_ne] at hc
    exact ⟨.inl hc.1, hc.2⟩
  | acknowledge se => trivial

/-- Acknowledged one by one, the updates leave nothing behind. -/
theorem no_sibling_leaks_acknowledged : ∃ s : AppliedVault String, s.applied.length = 2 ∧
    ∀ sibling ∈ siblingsOf (textPlatform false) (updatedNote 2 "b.md"),
      s.world.files sibling = none := by
  obtain ⟨s, ran, two, ha⟩ : ∃ s, (applyMachine (textPlatform false)).run twoNotes
      [applyNote 1 "a.md", .acknowledge 1, applyNote 2 "b.md"] = some s ∧
      s.applied.length = 2 ∧ updatedNote 2 "b.md" ∈ s.applied :=
    ⟨_, rfl, rfl, .tail _ (.head _)⟩
  exact ⟨s, two, no_sibling_leaks (textPlatform false)
    (Machine.guardedReachable_of_run cleanCheck_sound twoNotes_init ran (by decide +kernel))
    (updatedNote 2 "b.md") ha⟩

/-- Two updates are applied one after the other, then both are acknowledged: the old bytes of the
second stay at its rollback sibling. -/
theorem update_leaks_sibling : ∃ s, (applyMachine (textPlatform false)).Reachable s ∧
    (∀ row ∈ s.world.repository.remoteApplyOperations, row.state = .serverAcknowledged) ∧
    ∃ event ∈ s.applied, ∃ sibling ∈ siblingsOf (textPlatform false) event,
      s.world.files sibling ≠ none := by
  obtain ⟨s, ran, hs, ha, hk⟩ : ∃ s, (applyMachine (textPlatform false)).run twoNotes
      [applyNote 1 "a.md", applyNote 2 "b.md", .acknowledge 2] = some s ∧
      (s.world.repository.remoteApplyOperations.all (·.state == .serverAcknowledged)) = true ∧
      updatedNote 2 "b.md" ∈ s.applied ∧
      s.world.files (rollbackOf (textPlatform false) "b.md" 2) = some "old" :=
    ⟨_, rfl, by decide +kernel, .tail _ (.head _), by decide +kernel⟩
  refine ⟨s, Machine.reachable_of_run twoNotes_init ran, by simpa using hs, _, ha,
    rollbackOf (textPlatform false) "b.md" 2, .tail _ (.head _), ?_⟩
  rw [hk]
  exact nofun

end PersonalOs.DeviceSync

import PersonalOs.DeviceSync.VaultWriter

/-!
# What a blocked recovery leaves in the Vault

The recovery of a row blocks where it finds bytes it cannot account for, and is documented to
preserve them. It looks at them late: a prepared or mutated row loses its siblings first, staged
bytes are moved in before they are verified again, and a rollback sibling replaces the bytes at the
target before it is verified itself.
-/

namespace PersonalOs.DeviceSync

open CallPrograms

variable {Bytes Locals : Type}

def VaultWorld.answering (files : Locator → Option Bytes) : VaultWorld Bytes where
  files := files
  failing := false
  repository := .seeded
  observations := []
  foreign := none

/-- What `recover` answers over these contents, and the contents it leaves. -/
def recoverIn (platform : VaultPlatform Bytes) (row : RemoteApplyOperation)
    (files : Locator → Option Bytes) : Except Thrown VaultRecovery × (Locator → Option Bytes) :=
  let ((out, _), w) := Routine.exec (recoverApply platform row) () (.answering files)
  (out, w.files)

section Condition

variable (platform : VaultPlatform Bytes) (row : RemoteApplyOperation)
  (files : Locator → Option Bytes)

/-- The target, prior, temp and rollback locators of a row. -/
def namedLocators : List Locator :=
  row.targetLocator.toList ++ row.priorLocator.toList ++
    match contentTargetOf row, row.tempToken with
    | some target, some token => [tempOf platform target token, rollbackOf platform target token]
    | _, _ => []

/-- The target of a prepared row is neither its base, nor its final bytes, nor still absent. -/
def preparedUnproven (target : Locator) : Bool :=
  !(row.operation == .updated && hashesTo platform (files target) row.baseFingerprint) &&
    !hashesTo platform (files target) row.finalFingerprint &&
    !(row.operation != .updated && (files target).isNone)

/-- Bytes at the rollback sibling that are not the base. -/
def rollbackUnproven (rollback : Locator) : Bool :=
  (files rollback).isSome && !provesBase platform row.baseFingerprint (files rollback)

/-- Unverifiable bytes at the target, and an unproven rollback sibling to put in their place. -/
def replacesUnverified (target rollback : Locator) : Bool :=
  (files target).isSome && !hashesTo platform (files target) row.baseFingerprint &&
    rollbackUnproven platform row files rollback

/-- Staged bytes that no longer verify and are moved in, with nothing proven to put back. -/
def movesUnverified (target temp rollback : Locator) : Bool :=
  (files temp).isSome && !hashesTo platform (files temp) row.finalFingerprint &&
    if row.operation == .updated then
      (files target).isNone && ((files rollback).isNone || rollbackUnproven platform row files rollback)
    else
      (files target).isNone ||
        (hashesTo platform (files target) row.baseFingerprint && platform.renameReplaces)

/-- The rows that lose bytes to a recovery that blocks. -/
def touchesBlocked : Bool :=
  match contentTargetOf row, row.tempToken with
  | some target, some token =>
    let temp := tempOf platform target token
    let rollback := rollbackOf platform target token
    match row.state with
    | .prepared =>
      ((files temp).isSome || (files rollback).isSome) && preparedUnproven platform row files target
    | .tempVerified =>
      (row.operation == .created || row.operation == .updated) &&
        !hashesTo platform (files target) row.finalFingerprint &&
        (replacesUnverified platform row files target rollback ||
          movesUnverified platform row files target temp rollback)
    | .vaultMutated =>
      ((files temp).isSome || (files rollback).isSome) &&
        !hashesTo platform (files target) row.finalFingerprint
    | .locallyApplied | .serverAcknowledged => false
  | _, _ => false

end Condition

/-! ## Recovery over contents that answer -/

namespace BlockedRecoveryLemmas

variable {platform : VaultPlatform Bytes} {row : RemoteApplyOperation} {locals : Locals}
  {w : VaultWorld Bytes} {target : Locator} {token : Nat}

theorem exec_cleanSibling (ha : w.failing = false) (s : Locator) :
    (cleanSibling (structuralVaultMutationSeam platform) s).exec locals w =
      ((.ok true, locals), w.withFile s none) := by
  simp only [cleanSibling, Routine.exec_tryCatch, Routine.exec_bind, exec_locatorExists ha]
  cases hh : w.files s with
  | none => simp [VaultWorld.withFile_self hh]
  | some b => simp [Routine.exec_bind, exec_trashLocator ha, hh]

theorem exec_cleanSiblingsOf (ha : w.failing = false)
    (hc : contentTargetOf row = some target) (hs : row.tempToken = some token) :
    (cleanSiblingsOf platform row).exec locals w =
      ((.ok none, locals), (w.withFile (tempOf platform target token) none).withFile
        (rollbackOf platform target token) none) := by
  simp [cleanSiblingsOf, hc, hs, cleanupExactVaultSiblings, Routine.exec_bind,
    exec_cleanSibling, ha]

theorem exec_cleanSiblingsOf_none (hu : contentTargetOf row = none ∨ row.tempToken = none) :
    (cleanSiblingsOf platform row).exec locals w = ((.ok none, locals), w) := by
  unfold cleanSiblingsOf
  split
  · rcases hu with hn | hn <;> simp_all
  · rfl

theorem exec_restoreRollback (ha : w.failing = false) {rollback : Locator}
    {b : Option Fingerprint} (hap : rollback ≠ target)
    (ho : (w.files target).isSome = true) (hr : (w.files rollback).isSome = true) :
    (restoreRollback platform target rollback b).exec locals w =
      ((.ok (provesBase platform b (w.files rollback)), locals),
        (w.withFile target none).rename rollback target) := by
  simp [restoreRollback, Routine.exec_bind, Routine.exec_tryCatch, exec_trashLocator, ha,
    ho, exec_renameLocator, VaultWorld.canRename, hap, hr, exec_readBytes]

/-! ## How a recovery settles -/

/-- Whether a recovery loses bytes to a block. -/
inductive Settles (files : Locator → Option Bytes) (locators : List Locator) (touches : Bool) :
    (Except Thrown VaultRecovery × Locals) × VaultWorld Bytes → Prop
  | proven {out : Except Thrown VaultRecovery} {locals : Locals} {w : VaultWorld Bytes}
      (not : touches = false) (answers : ∀ reason, out ≠ .ok (.blocked reason)) :
      Settles files locators touches ((out, locals), w)
  | untouched {out : Except Thrown VaultRecovery} {locals : Locals} {w : VaultWorld Bytes}
      (not : touches = false) (same : w.files = files) :
      Settles files locators touches ((out, locals), w)
  | touched {locals : Locals} {w : VaultWorld Bytes} (does : touches = true)
      (differs : ∃ locator ∈ locators, w.files locator ≠ files locator) :
      Settles files locators touches ((.ok ambiguous, locals), w)

theorem mem_namedLocators (platform : VaultPlatform Bytes)
    (hc : contentTargetOf row = some target) (hs : row.tempToken = some token) :
    target ∈ namedLocators platform row ∧
      tempOf platform target token ∈ namedLocators platform row ∧
      rollbackOf platform target token ∈ namedLocators platform row := by
  refine ⟨?_, ?_, ?_⟩
  · unfold contentTargetOf at hc
    split at hc <;> simp_all [namedLocators]
  · simp [namedLocators, hc, hs]
  · simp [namedLocators, hc, hs]

theorem cleaned_touched (hc : contentTargetOf row = some target) (hs : row.tempToken = some token)
    (hp : (w.files (tempOf platform target token)).isSome = true ∨
      (w.files (rollbackOf platform target token)).isSome = true) :
    ∃ l ∈ namedLocators platform row, ((w.withFile (tempOf platform target token) none).withFile
        (rollbackOf platform target token) none).files l ≠ w.files l := by
  obtain ⟨-, temp, rollback⟩ := mem_namedLocators platform hc hs
  rcases hp with hh | hh
  · refine ⟨_, temp, fun he => ?_⟩
    simp at he
    simp [← he] at hh
  · refine ⟨_, rollback, fun he => ?_⟩
    simp at he
    simp [← he] at hh

theorem cleaned_untouched (hn : ((w.files (tempOf platform target token)).isSome ||
      (w.files (rollbackOf platform target token)).isSome) = false) :
    ((w.withFile (tempOf platform target token) none).withFile
      (rollbackOf platform target token) none).files = w.files := by
  simp only [Bool.or_eq_false_iff, Option.isSome_eq_false_iff, Option.isNone_iff_eq_none] at hn
  rw [VaultWorld.withFile_self hn.1, VaultWorld.withFile_self hn.2]

theorem cleaned_target (platform : VaultPlatform Bytes) (w : VaultWorld Bytes) (target : Locator)
    (token : Nat) : ((w.withFile (tempOf platform target token) none).withFile
    (rollbackOf platform target token) none).files target = w.files target := by
  simp [(tempOf_ne platform).symm, (rollbackOf_ne platform).symm]

theorem prepared_settles (ha : w.failing = false)
    (hc : contentTargetOf row = some target) (hst : row.tempToken = some token)
    (hp : row.state = .prepared) :
    Settles w.files (namedLocators platform row) (touchesBlocked platform row w.files)
      ((recoverPreparedContent platform row target).exec locals w) := by
  have hr := cleaned_target platform w target token
  simp only [touchesBlocked, hc, hst, hp, recoverPreparedContent,
    Routine.exec_bind, exec_cleanSiblingsOf ha hc hst]
  rw [exec_readBytes (by simpa using ha)]
  simp only [hr]
  split
  · next hb => exact .proven (by simp [preparedUnproven, hb]) nofun
  split
  · next hf => exact .proven (by simp [preparedUnproven, hf]) nofun
  split
  · next hs => exact .proven (by simp [preparedUnproven, hs]) nofun
  next hne hno hn =>
  have hu : preparedUnproven platform row w.files target = true := by
    simp only [Bool.not_eq_true] at hne hno hn
    simp [preparedUnproven, hne, hno, hn]
  rw [hu, Bool.and_true]
  cases hpr : (w.files (tempOf platform target token)).isSome ||
      (w.files (rollbackOf platform target token)).isSome with
  | false => exact .untouched rfl (cleaned_untouched hpr)
  | true => exact .touched rfl (cleaned_touched hc hst (by simpa using hpr))

theorem vaultMutated_settles (ha : w.failing = false)
    (hc : contentTargetOf row = some target) (hs : row.tempToken = some token)
    (hm : row.state = .vaultMutated) :
    Settles w.files (namedLocators platform row) (touchesBlocked platform row w.files)
      ((recoverVaultMutated platform row).exec locals w) := by
  have hr := cleaned_target platform w target token
  have hl : (if row.operation == .renamed || row.operation == .moved then row.targetLocator
      else some target) = some target := by
    unfold contentTargetOf at hc
    split at hc <;> simp_all
  have hno : (row.operation == .deleted) = false := by
    unfold contentTargetOf at hc
    split at hc <;> simp_all
  simp only [touchesBlocked, hc, hs, hm, recoverVaultMutated,
    Routine.exec_bind, exec_cleanSiblingsOf ha hc hs, hno, hl,
    Bool.false_eq_true, if_false]
  rw [exec_readBytes (by simpa using ha)]
  simp only [hr]
  split
  · next hf => exact .proven (by simp [hf]) nofun
  next hn =>
  rw [Bool.not_eq_true] at hn
  rw [hn, Bool.not_false, Bool.and_true]
  cases hp : (w.files (tempOf platform target token)).isSome ||
      (w.files (rollbackOf platform target token)).isSome with
  | false => exact .untouched rfl (cleaned_untouched hp)
  | true => exact .touched rfl (cleaned_touched hc hs (by simpa using hp))

theorem unstaged_settles (ha : w.failing = false)
    (hu : contentTargetOf row = none ∨ row.tempToken = none) :
    Settles w.files (namedLocators platform row) (touchesBlocked platform row w.files)
      ((recoverApply platform row).exec locals w) := by
  have not : touchesBlocked platform row w.files = false := by
    unfold touchesBlocked
    split
    · rcases hu with hn | hn <;> simp_all
    · rfl
  have hc : (cleanSiblingsOf platform row).exec locals w = ((.ok none, locals), w) :=
    exec_cleanSiblingsOf_none hu
  unfold recoverApply
  split
  · unfold recoverPrepared
    split
    · simp only [recoverPreparedContent, Routine.exec_bind, hc, exec_readBytes ha]
      split_ifs <;> exact .untouched not rfl
    · split
      · simp only [recoverPreparedTombstone, Routine.exec_bind, exec_readBytes ha]
        split_ifs <;> exact .untouched not rfl
      · simp only [recoverPreparedLocator, Routine.exec_bind, exec_locatorExists ha]
        split
        · simp only [Routine.exec_bind, exec_readBytes ha]
          split_ifs <;> exact .untouched not rfl
        split
        · simp only [Routine.exec_bind, exec_readBytes ha]
          split_ifs <;> exact .untouched not rfl
        · exact .untouched not rfl
  · unfold recoverTempVerified
    split
    · exact .untouched not rfl
    · split
      · rcases hu with hn | hn <;> simp_all
      · exact .untouched not rfl
  · simp only [recoverVaultMutated, Routine.exec_bind, hc]
    split
    · exact .untouched not rfl
    · generalize (if row.operation == .renamed || row.operation == .moved then row.targetLocator
        else contentTargetOf row) = pl
      cases pl <;> simp only [Routine.exec_bind, Routine.exec_pure, exec_readBytes ha] <;>
        split_ifs <;> exact .untouched not rfl
  · simp only [Routine.exec_bind, hc]
    exact .untouched not rfl
  · simp only [Routine.exec_bind, hc]
    exact .untouched not rfl

/-! ### Staged rows -/

section Staged

variable {temp rollback : Locator}

/-- The siblings of a staged row, told apart. -/
structure Apart (target temp rollback : Locator) : Prop where
  staged : temp ≠ target
  retained : rollback ≠ target
  siblings : temp ≠ rollback

variable {locators : List Locator} {touches : Bool}

theorem mutated_settles (ha : w.failing = false) {files : Locator → Option Bytes}
    (hc : contentTargetOf row = some target) (hs : row.tempToken = some token)
    (not : touches = false) :
    Settles files locators touches (Routine.exec (do
        let cf ← cleanSiblingsOf platform row
        return VaultRecovery.mutated row.eventSequence row.finalFingerprint row.tempToken cf)
      locals w) := by
  simp only [Routine.exec_bind, exec_cleanSiblingsOf ha hc hs]
  exact .proven not nofun

theorem created_resume_settles (ha : w.failing = false) (hap : Apart target temp rollback)
    (hco : contentTargetOf row = some target) (hs : row.tempToken = some token)
    (hc : (row.operation == .updated) = false) (hna : temp ∈ locators)
    (hp : (w.files temp).isSome = true)
    (hd : touches = (w.canRename platform temp target &&
      !hashesTo platform (w.files temp) row.finalFingerprint)) :
    Settles w.files locators touches
      ((resumeReplace platform row target temp rollback).exec locals w) := by
  subst hd
  cases hm : w.canRename platform temp target with
  | false =>
    simp only [resumeReplace, wrapping, Routine.exec_bind, Routine.exec_tryCatch, hc,
      exec_renameLocator, hm, Routine.exec_pure, Routine.exec_throw, Bool.false_eq_true, if_false]
    exact .proven rfl nofun
  | true =>
    simp only [resumeReplace, wrapping, Routine.exec_bind, Routine.exec_tryCatch, hc,
      exec_renameLocator, hm, Routine.exec_pure, Bool.false_eq_true, if_false, if_true]
    rw [exec_readBytes (by simpa using ha)]
    simp only [VaultWorld.rename_files, Function.update_self]
    split
    · next hf =>
      exact mutated_settles (by simpa using ha) hco hs (by simp [hf])
    · next hn =>
      refine .touched (by simpa using hn) ⟨temp, hna, fun he => ?_⟩
      simp [hap.staged] at he
      simp [← he] at hp

theorem exec_recoverUnverified (ha : w.failing = false) (hap : Apart target temp rollback)
    (ho : (w.files target).isSome = true) :
    (recoverUnverified platform row target rollback).exec locals w =
      if (w.files rollback).isSome then
        ((.ok (if provesBase platform row.baseFingerprint (w.files rollback) then
            restoredVerdict row else ambiguous), locals),
          (w.withFile target none).rename rollback target)
      else ((.ok ambiguous, locals), w) := by
  simp only [recoverUnverified, Routine.exec_bind, exec_locatorExists ha]
  cases hr : (w.files rollback).isSome with
  | false => rfl
  | true =>
    simp only [if_true, Routine.exec_bind, exec_restoreRollback ha hap.retained ho hr]
    rfl

theorem unverified_settles (ha : w.failing = false) (hap : Apart target temp rollback)
    (ho : (w.files target).isSome = true) {files : Locator → Option Bytes}
    (hr : w.files rollback = files rollback) (hn : rollback ∈ locators)
    (hd : touches = rollbackUnproven platform row files rollback)
    (he : (files rollback).isNone = true → w.files = files) :
    Settles files locators touches
      ((recoverUnverified platform row target rollback).exec locals w) := by
  rw [exec_recoverUnverified ha hap ho, hr]
  subst hd
  unfold rollbackUnproven
  cases hh : (files rollback) with
  | none => exact .untouched rfl (he (by simp [hh]))
  | some b =>
    simp only [Option.isSome_some, if_true, Bool.true_and]
    split
    · next hp => exact .proven (by simp [hp]) nofun
    · next hu =>
      refine .touched (by simpa using hu) ⟨rollback, hn, fun hg => ?_⟩
      simp [hap.retained, hh] at hg

theorem updated_resume_settles (ha : w.failing = false) (hap : Apart target temp rollback)
    (hc : contentTargetOf row = some target) (hs : row.tempToken = some token)
    (hup : (row.operation == .updated) = true) (hna : temp ∈ locators)
    (hp : (w.files temp).isSome = true) (hab : w.files target = none)
    (hd : touches = (!hashesTo platform (w.files temp) row.finalFingerprint &&
      ((w.files rollback).isNone || rollbackUnproven platform row w.files rollback))) :
    Settles w.files locators touches
      ((resumeReplace platform row target temp rollback).exec locals w) := by
  subst hd
  have hm : w.canRename platform temp target = true := by
    simp [VaultWorld.canRename, ha, hp, hab]
  simp only [resumeReplace, wrapping, Routine.exec_bind, Routine.exec_tryCatch, hup, if_true,
    exec_locatorExists ha, hab, exec_renameLocator, hm, Option.isSome_none, Bool.false_eq_true, if_false]
  rw [exec_readBytes (by simpa using ha)]
  simp only [VaultWorld.rename_files, Function.update_self]
  split
  · next hf =>
    exact mutated_settles (by simpa using ha) hc hs (by simp [hf])
  · next hn =>
    rw [Bool.not_eq_true] at hn
    change Settles _ _ _ ((recoverUnverified platform row target rollback).exec locals _)
    rw [exec_recoverUnverified (by simpa using ha) hap (by simpa using hp)]
    have hr : (w.rename temp target).files rollback = w.files rollback := by
      simp [hap.retained, hap.siblings.symm]
    have hg (u : VaultWorld Bytes) (hv : u.files temp = none) :
        ∃ l ∈ locators, u.files l ≠ w.files l := by
      refine ⟨temp, hna, fun he => ?_⟩
      rw [← he, hv] at hp
      simp at hp
    rw [hr, hn, Bool.not_false, Bool.true_and]
    unfold rollbackUnproven
    cases hh : w.files rollback with
    | none => exact .touched rfl (hg _ (by simp [hap.staged]))
    | some b =>
      simp only [Option.isSome_some, Option.isNone_some, if_true, Bool.true_and, Bool.false_or]
      split
      · next hpr => exact .proven (by simp [hpr]) nofun
      · next hu =>
        exact .touched (by simpa using hu) (hg _ (by simp [hap.staged, hap.siblings]))

theorem updated_resume_base_settles (ha : w.failing = false)
    (hap : Apart target temp rollback) (hc : contentTargetOf row = some target)
    (hs : row.tempToken = some token) (hu : (row.operation == .updated) = true)
    (hp : (w.files temp).isSome = true)
    (hat : hashesTo platform (w.files target) row.baseFingerprint = true)
    (not : touches = false) :
    Settles w.files locators touches
      ((resumeReplace platform row target temp rollback).exec locals w) := by
  have ho : (w.files target).isSome = true := by
    cases hh : w.files target with
    | none => simp [hh, hashesTo] at hat
    | some b => rfl
  simp only [resumeReplace, wrapping, Routine.exec_bind, Routine.exec_tryCatch, hu, if_true,
    exec_locatorExists ha, ho, exec_renameLocator]
  cases has : w.canRename platform target rollback with
  | false => exact .proven not nofun
  | true =>
    have hm : (w.rename target rollback).canRename platform temp target = true := by
      simp [VaultWorld.canRename, ha, hp, hap.siblings, hap.staged, hap.retained.symm]
    simp only [if_true, hm]
    rw [exec_readBytes (by simpa using ha)]
    simp only
    split
    · exact mutated_settles (by simpa using ha) hc hs not
    · change Settles _ _ _ ((recoverUnverified platform row target rollback).exec locals _)
      rw [exec_recoverUnverified (by simpa using ha) hap
        (by simpa [hap.siblings, hap.staged] using hp)]
      have hpr : provesBase platform row.baseFingerprint (w.files target) = true := by
        unfold provesBase
        split
        · exact ho
        · exact hat
      simp [hap.retained, hap.siblings.symm, ho, hpr]
      exact .proven not nofun

theorem absent_settles (ha : w.failing = false) (hn : w.files target = none)
    (not : touches = false) :
    Settles w.files locators touches
      ((recoverAbsent platform row target rollback).exec locals w) := by
  simp only [recoverAbsent, Routine.exec_bind, exec_locatorExists ha]
  split
  · simp only [restoreRollback, Routine.exec_bind, Routine.exec_tryCatch,
      exec_trashLocator ha, hn, Option.isSome_none, Bool.false_eq_true, if_false,
      Routine.exec_pure]
    exact .untouched not rfl
  · exact .untouched not rfl

theorem recoverStaged_settles (ha : w.failing = false) (hap : Apart target temp rollback)
    (hc : contentTargetOf row = some target) (hs : row.tempToken = some token)
    (ht : temp ∈ locators) (hr : rollback ∈ locators)
    (hd : touches = (!hashesTo platform (w.files target) row.finalFingerprint &&
      (replacesUnverified platform row w.files target rollback ||
        movesUnverified platform row w.files target temp rollback))) :
    Settles w.files locators touches
      ((recoverStaged platform row target temp rollback).exec locals w) := by
  simp only [recoverStaged, Routine.exec_bind, exec_locatorExists ha, exec_readBytes ha]
  split
  · next hf => exact mutated_settles ha hc hs (by simp [hd, hf])
  next hno =>
  simp only [Bool.not_eq_true] at hno
  simp only [hno, Bool.not_false, Bool.true_and] at hd
  split
  · next hat =>
    have ho : (w.files target).isNone = false := by
      cases hh : w.files target with
      | none => simp [hh, hashesTo] at hat
      | some b => rfl
    split
    · next hp =>
      cases hu : row.operation == .updated with
      | true =>
        refine updated_resume_base_settles ha hap hc hs hu hp hat ?_
        simp [hd, replacesUnverified, movesUnverified, hat, hu, ho]
      | false =>
        refine created_resume_settles ha hap hc hs hu ht hp ?_
        simp [hd, replacesUnverified, movesUnverified, hat, hu, ho,
          VaultWorld.canRename, ha, hp, Bool.and_comm]
    · next hm =>
      exact .proven (by simp_all [replacesUnverified, movesUnverified]) nofun
  next hne =>
  simp only [Bool.not_eq_true] at hne
  split
  · next ho =>
    refine unverified_settles ha hap ho rfl hr ?_ fun _ => rfl
    have hp : (w.files target).isNone = false := by simpa using ho
    simp [hd, replacesUnverified, movesUnverified, hne, ho, hp]
  next hv =>
  have hn : w.files target = none := by simpa using hv
  split
  · next hp =>
    cases hu : row.operation == .updated with
    | true =>
      refine updated_resume_settles ha hap hc hs hu ht hp hn ?_
      simp [hd, replacesUnverified, movesUnverified, hn, hu, hp]
    | false =>
      refine created_resume_settles ha hap hc hs hu ht hp ?_
      simp [hd, replacesUnverified, movesUnverified, hn, hu, hp, VaultWorld.canRename, ha]
  · next hm =>
    exact absent_settles ha hn (by simp_all [replacesUnverified, movesUnverified])

end Staged

theorem recoverApply_settles (platform : VaultPlatform Bytes) (row : RemoteApplyOperation)
    (locals : Locals) (w : VaultWorld Bytes) (ha : w.failing = false) :
    Settles w.files (namedLocators platform row) (touchesBlocked platform row w.files)
      ((recoverApply platform row).exec locals w) := by
  cases hc : contentTargetOf row with
  | none => exact unstaged_settles ha (.inl hc)
  | some target =>
    cases hs : row.tempToken with
    | none => exact unstaged_settles ha (.inr hs)
    | some token =>
      obtain ⟨-, ht, hr⟩ := mem_namedLocators platform hc hs
      unfold recoverApply
      split
      · next hp =>
        simp only [recoverPrepared, hc]
        exact prepared_settles ha hc hs hp
      · next hst =>
        unfold recoverTempVerified
        split
        · next hi =>
          refine .untouched ?_ rfl
          simp_all [touchesBlocked]
        · next hpo =>
          simp only [hc, hs]
          refine recoverStaged_settles ha ⟨tempOf_ne platform,
            rollbackOf_ne platform, tempOf_ne_rollbackOf platform⟩ hc hs ht hr ?_
          have ho : (row.operation == .created || row.operation == .updated) = true := by
            cases hop : row.operation <;> simp_all
          simp [touchesBlocked, hc, hs, hst, ho]
      · next hm => exact vaultMutated_settles ha hc hs hm
      all_goals
        next hse =>
        simp only [Routine.exec_bind, exec_cleanSiblingsOf ha hc hs]
        exact .proven (by simp [touchesBlocked, hc, hs, hse]) nofun

end BlockedRecoveryLemmas

/-- A recovery that blocks leaves the four locators of its row as they were, exactly where the row
does not lose bytes to it. -/
theorem blocked_recovery_untouched_iff (platform : VaultPlatform Bytes)
    (row : RemoteApplyOperation) (files : Locator → Option Bytes) :
    ((∃ reason, (recoverIn platform row files).1 = .ok (.blocked reason)) →
      ∀ locator ∈ namedLocators platform row,
        (recoverIn platform row files).2 locator = files locator) ↔
      touchesBlocked platform row files = false := by
  have hs := BlockedRecoveryLemmas.recoverApply_settles platform row () (.answering files) rfl
  unfold recoverIn
  generalize (recoverApply platform row).exec () (.answering files) = out at hs
  cases hs with
  | proven not ha => exact ⟨fun _ => not, fun _ ⟨reason, hb⟩ => absurd hb (ha reason)⟩
  | untouched not he => exact ⟨fun _ => not, fun _ _ _ _ => congrFun he _⟩
  | touched hdo hd =>
    obtain ⟨locator, hn, hd⟩ := hd
    refine ⟨fun hk => absurd (hk ⟨_, rfl⟩ locator hn) hd, fun not => ?_⟩
    exact Bool.noConfusion (hdo.symm.trans not)
/-! ### An update interrupted before its cleanup -/

/-- Texts as bytes, each its own hash. -/
def textPlatform (renameReplaces : Bool) : VaultPlatform String where
  byteLength := String.length
  sha256Hex := id
  tokenText eventId := String.ofList (List.replicate eventId '1')
  renameReplaces := renameReplaces

def textFingerprint (text : String) : Fingerprint := ⟨text, text.length, "text/markdown"⟩

/-- `a.md` was updated from `old` to `new`, and the retained `old` was not yet cleaned up. -/
def mutatedUpdate : RemoteApplyOperation where
  eventSequence := 1
  eventId := 1
  sourceId := 1
  operation := .updated
  priorLocator := some "a.md"
  targetLocator := none
  baseFingerprint := some (textFingerprint "old")
  finalFingerprint := some (textFingerprint "new")
  tempToken := some 1
  rollbackToken := some 1
  state := .vaultMutated
  safeErrorCode := none

def editedMeanwhile (locator : Locator) : Option String :=
  if locator == "a.md" then some "edited"
  else if locator == ".a.md.device-sync-rb-1" then some "old"
  else none

/-- The recovery blocks on the edit, after it has removed the old bytes. -/
theorem blocked_recovery_removes_rollback :
    ¬((∃ reason, (recoverIn (textPlatform false) mutatedUpdate editedMeanwhile).1 =
        .ok (.blocked reason)) →
      ∀ locator ∈ namedLocators (textPlatform false) mutatedUpdate,
        (recoverIn (textPlatform false) mutatedUpdate editedMeanwhile).2 locator =
          editedMeanwhile locator) := by
  intro hk
  have rollback := hk ⟨.deviceApplyRecoveryAmbiguous, by rfl⟩ ".a.md.device-sync-rb-1"
    (by decide +kernel)
  revert rollback
  decide +kernel

end PersonalOs.DeviceSync

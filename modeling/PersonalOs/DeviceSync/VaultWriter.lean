import PersonalOs.DeviceSync.VaultSeam

/-!
# The atomic Vault writer

The mutation primitive (stage, verify, prove the base, replace, verify), the writer that glues the
durable `temp_verified` transition to its first rename, and the recovery of one row of the apply
lattice.
-/

namespace PersonalOs.DeviceSync

open CallPrograms

variable {Bytes Locals : Type}

/-! ## The mutation primitive -/

structure AtomicVaultMutationInput (Bytes : Type) where
  targetLocator : Locator
  tempToken : Nat
  bytes : Bytes
  expectedFinalFingerprint : Fingerprint
  expectedBaseFingerprint : Option Fingerprint

/-- Refuse at one stage, whatever was thrown. -/
def atStage {α : Type} (reached : AtomicVaultMutationStage) (body : VaultRoutine Bytes Locals α) :
    VaultRoutine Bytes Locals α :=
  tryCatch body fun _ => throw (.mutation reached false)

section Primitive

variable (platform : VaultPlatform Bytes) (seam : VaultMutationSeam Bytes Locals)

/-- The staged bytes of a token. -/
def tempOf (target : Locator) (token : Nat) : Locator :=
  buildTempSiblingLocator target (platform.tokenText token)

/-- The retained old bytes of a token. -/
def rollbackOf (target : Locator) (token : Nat) : Locator :=
  buildRollbackSiblingLocator target (platform.tokenText token)

@[simp] theorem tempOf_ne {t : Locator} {tk : Nat} : tempOf platform t tk ≠ t :=
  buildSiblingLocator_ne

@[simp] theorem rollbackOf_ne {t : Locator} {tk : Nat} : rollbackOf platform t tk ≠ t :=
  buildSiblingLocator_ne

@[simp] theorem tempOf_ne_rollbackOf {t : Locator} {tk : Nat} :
    tempOf platform t tk ≠ rollbackOf platform t tk :=
  siblings_ne

def trashQuietly (locator : Locator) : VaultRoutine Bytes Locals Unit :=
  tryCatch (seam.trashLocator .elsewhere locator) fun _ => return ()

/-- Whether the old bytes are back: without a pin, whether any are. -/
def provesBase (base : Option Fingerprint) (restored : Option Bytes) : Bool :=
  match base with
  | none => restored.isSome
  | some _ => hashesTo platform restored base

def restoreVerifiedOldBytes (target rollback : Locator) (base : Option Fingerprint) :
    VaultRoutine Bytes Locals Bool :=
  tryCatch
    (do
      seam.trashLocator .elsewhere target
      seam.renameLocator .elsewhere rollback target
      let restored ← seam.readBytes .elsewhere target
      return provesBase platform base restored)
    fun _ => return false

/-- 1. The bytes go to the hidden sibling, after a stale one of this token, and are verified. -/
def stageBytes (input : AtomicVaultMutationInput Bytes) : VaultRoutine Bytes Locals Unit := do
  let temp := tempOf platform input.targetLocator input.tempToken
  atStage .stage do
    if ← seam.locatorExists .elsewhere temp then
      seam.trashLocator .elsewhere temp
    seam.createFile .elsewhere temp input.bytes
  let staged ← atStage .verifyStaged (seam.readBytes .elsewhere temp)
  if hashesTo platform staged (some input.expectedFinalFingerprint) then
    return ()
  else do
    trashQuietly seam temp
    throw (.mutation .verifyStaged false)

/-- 2. A pinned base is proven of an occupied target. -/
def proveBase (input : AtomicVaultMutationInput Bytes) : VaultRoutine Bytes Locals Bool := do
  let current ← atStage .proveBase (seam.readBytes .proveBase input.targetLocator)
  if current.isSome && input.expectedBaseFingerprint.isSome &&
      !hashesTo platform current input.expectedBaseFingerprint then do
    trashQuietly seam (tempOf platform input.targetLocator input.tempToken)
    throw (.mutation .proveBase false)
  else
    return current.isSome

/-- 3. The old bytes move to the rollback sibling, the staged bytes move in. -/
def replaceTarget (input : AtomicVaultMutationInput Bytes) (hasTarget : Bool) :
    VaultRoutine Bytes Locals Unit :=
  atStage .replace do
    if hasTarget then
      seam.renameLocator .replace input.targetLocator
        (rollbackOf platform input.targetLocator input.tempToken)
    seam.renameLocator .replace (tempOf platform input.targetLocator input.tempToken)
      input.targetLocator

def verifyFinal (input : AtomicVaultMutationInput Bytes) (hasTarget : Bool) :
    VaultRoutine Bytes Locals Unit := do
  let final ← atStage .verifyFinal (seam.readBytes .elsewhere input.targetLocator)
  if hashesTo platform final (some input.expectedFinalFingerprint) then
    return ()
  else if hasTarget then do
    let restored ← restoreVerifiedOldBytes platform seam input.targetLocator
      (rollbackOf platform input.targetLocator input.tempToken) input.expectedBaseFingerprint
    throw (.mutation .verifyFinal restored)
  else
    throw (.mutation .verifyFinal false)

/-- Whether a rollback sibling is retained. -/
def stageVerifyAndReplaceVaultContent (input : AtomicVaultMutationInput Bytes) :
    VaultRoutine Bytes Locals Bool := do
  stageBytes platform seam input
  let hasTarget ← proveBase platform seam input
  replaceTarget platform seam input hasTarget
  verifyFinal platform seam input hasTarget
  return hasTarget

/-- Whether the sibling is gone. -/
def cleanSibling (sibling : Locator) : VaultRoutine Bytes Locals Bool :=
  tryCatch
    (do
      if ← seam.locatorExists .elsewhere sibling then
        seam.trashLocator .elsewhere sibling
      return true)
    fun _ => return false

def cleanupExactVaultSiblings (target : Locator) (token : Nat) :
    VaultRoutine Bytes Locals Bool := do
  let temp ← cleanSibling seam (tempOf platform target token)
  let rollback ← cleanSibling seam (rollbackOf platform target token)
  return temp && rollback

end Primitive

/-! ## The writer -/

structure ContentApplyInput (Bytes : Type) where
  eventSequence : Nat
  operation : DeviceEventOperation
  targetLocator : Locator
  expectedFinalFingerprint : Fingerprint
  baseFingerprint : Option Fingerprint
  bytes : Bytes
  tempToken : Nat

structure LocatorApplyInput where
  eventSequence : Nat
  operation : DeviceEventOperation
  priorLocator : Locator
  targetLocator : Locator
  expectedFinalFingerprint : Fingerprint
deriving DecidableEq

structure TombstoneApplyInput where
  eventSequence : Nat
  priorLocator : Locator
  baseFingerprint : Option Fingerprint
deriving DecidableEq

structure VerifiedVaultMutation where
  targetLocator : Option Locator
  verifiedFingerprint : Option Fingerprint
  tempToken : Option Nat
  rollbackToken : Option Nat
deriving DecidableEq

/-- The outcome of one crash recovery. -/
inductive VaultRecovery
  | clean (eventSequence : Nat) (cleanupFailure : Option DeviceSyncReason)
  | mutated (eventSequence : Nat) (verifiedFingerprint : Option Fingerprint)
      (rollbackToken : Option Nat) (cleanupFailure : Option DeviceSyncReason)
  | restored (eventSequence : Nat) (reason : DeviceSyncReason)
      (cleanupFailure : Option DeviceSyncReason)
  | blocked (reason : DeviceSyncReason)
deriving DecidableEq

/-- The target of a content operation; `updated` pins it as the prior locator. -/
def contentTargetOf (operation : RemoteApplyOperation) : Option Locator :=
  match operation.operation with
  | .updated => operation.priorLocator
  | .created | .restored => operation.targetLocator
  | _ => none

/-- A writer error stays what it is. -/
def wrapThrown (stage : ApplyFailureStage) (reason : DeviceSyncReason) (retryable : Bool) :
    Thrown → Thrown
  | .writer stage reason retryable restoredToBase => .writer stage reason retryable restoredToBase
  | _ => .writer stage reason retryable false

def wrapping {α : Type} (stage : ApplyFailureStage) (reason : DeviceSyncReason)
    (retryable : Bool) (body : VaultRoutine Bytes Locals α) : VaultRoutine Bytes Locals α :=
  tryCatch body fun error => throw (wrapThrown stage reason retryable error)

def mapMutationFailure : Thrown → Thrown
  | .mutation .stage _ | .mutation .verifyStaged _ =>
    .writer .verifyTemp .deviceApplyVaultFailed true false
  | .mutation .proveBase _ => .writer .vaultMutation .deviceManifestLocalDiverged false false
  | .mutation .verifyFinal restoredToBase =>
    .writer .verifyFinal .deviceApplyVaultFailed false restoredToBase
  | _ => .writer .vaultMutation .deviceApplyVaultFailed true false

/-- The reason member of a thrown error, if it has one. -/
def storeReasonOf : Thrown → Option DeviceSyncReason
  | .store reason | .writer _ reason _ _ => some reason
  | .api failure => some failure.reason
  | .vault | .mutation _ _ => none

/-- The variables the sequencing seam closes over. -/
structure SequencedLocals where
  hasDurableProof : Bool
  durableProofFailure : Option Thrown

section Writer

variable (platform : VaultPlatform Bytes)

/-- The seam that fires the durable transition before the first rename, and takes no vanished
target of an update for an absent one. -/
def sequencedSeam (input : ContentApplyInput Bytes) :
    VaultMutationSeam Bytes SequencedLocals :=
  let seam := structuralVaultMutationSeam platform
  { seam with
    readBytes := fun place locator => do
      let bytes ← seam.readBytes place locator
      let locals ← get
      if bytes.isNone && !locals.hasDurableProof && input.operation == .updated &&
          locator == input.targetLocator then
        throw (.writer .vaultMutation .deviceManifestLocalDiverged false false)
      else
        return bytes
    renameLocator := fun place fromLocator toLocator => do
      let locals ← get
      if !locals.hasDurableProof then
        set { locals with hasDurableProof := true }
        tryCatch
          (storeCall <| .transitionRemoteApply
            { eventSequence := input.eventSequence
              state := .tempVerified
              tempToken := some (some input.tempToken)
              rollbackToken := none })
          fun error => do
            set { locals with hasDurableProof := true, durableProofFailure := some error }
            throw error
      seam.renameLocator place fromLocator toLocator }

/-- Whether a rollback sibling is retained, once the target has the shape the operation needs. -/
def sequencedReplace (input : ContentApplyInput Bytes) :
    VaultRoutine Bytes SequencedLocals Bool :=
  tryCatch
    (stageVerifyAndReplaceVaultContent platform (sequencedSeam platform input)
      { targetLocator := input.targetLocator
        tempToken := input.tempToken
        bytes := input.bytes
        expectedFinalFingerprint := input.expectedFinalFingerprint
        expectedBaseFingerprint :=
          if input.operation == .updated then input.baseFingerprint else none })
    fun error => do
      match (← get).durableProofFailure with
      | some failure =>
        let reason := (storeReasonOf failure).getD .deviceApplyVaultFailed
        throw (.writer .verifyTemp reason false false)
      | none => throw (mapMutationFailure error)

def stageAndReplace (input : ContentApplyInput Bytes) :
    VaultRoutine Bytes Locals VerifiedVaultMutation := do
  let seam := structuralVaultMutationSeam platform
  let occupied ← seam.locatorExists .elsewhere input.targetLocator
  if input.operation == .updated && !occupied then
    throw (.writer .vaultMutation .deviceManifestLocalDiverged false false)
  else if input.operation != .updated && occupied then
    throw (.writer .vaultMutation .deviceManifestTargetOccupied false false)
  else do
    -- The lattice bars `restored` from the temp state.
    let (hasRollback, _) ← Routine.block ⟨input.operation == .restored, none⟩
      (sequencedReplace platform input)
    return {
      targetLocator := some input.targetLocator
      verifiedFingerprint := some input.expectedFinalFingerprint
      tempToken := some input.tempToken
      rollbackToken := if hasRollback then some input.tempToken else none }

def readOrNull (locator : Locator) (stage : ApplyFailureStage) :
    VaultRoutine Bytes Locals (Option Bytes) :=
  wrapping stage .deviceApplyVaultFailed true <|
    (structuralVaultMutationSeam platform).readBytes .elsewhere locator

def renameOrMove (input : LocatorApplyInput) :
    VaultRoutine Bytes Locals VerifiedVaultMutation := do
  let seam := structuralVaultMutationSeam platform
  if ← seam.locatorExists .elsewhere input.targetLocator then
    throw (.writer .vaultMutation .deviceManifestTargetOccupied false false)
  else do
    let prior ← readOrNull platform input.priorLocator .vaultMutation
    if !hashesTo platform prior (some input.expectedFinalFingerprint) then
      throw (.writer .vaultMutation .deviceManifestLocalDiverged false false)
    else do
      wrapping .vaultMutation .deviceApplyVaultFailed true <|
        seam.renameLocator .elsewhere input.priorLocator input.targetLocator
      let final ← readOrNull platform input.targetLocator .verifyFinal
      if !hashesTo platform final (some input.expectedFinalFingerprint) then do
        let restoredToBase ← tryCatch
          (do
            seam.renameLocator .elsewhere input.targetLocator input.priorLocator
            let restored ← seam.readBytes .elsewhere input.priorLocator
            return hashesTo platform restored (some input.expectedFinalFingerprint))
          fun _ => return false
        throw (.writer .verifyFinal .deviceApplyVaultFailed false restoredToBase)
      else
        return ⟨some input.targetLocator, some input.expectedFinalFingerprint, none, none⟩

def trash (input : TombstoneApplyInput) : VaultRoutine Bytes Locals VerifiedVaultMutation := do
  let prior ← readOrNull platform input.priorLocator .trash
  if prior.isNone then
    return ⟨none, none, none, none⟩
  else if input.baseFingerprint.isSome && !hashesTo platform prior input.baseFingerprint then
    throw (.writer .trash .deviceManifestLocalDiverged false false)
  else do
    wrapping .trash .deviceApplyTrashFailed true <|
      (structuralVaultMutationSeam platform).trashLocator .elsewhere input.priorLocator
    return ⟨none, none, none, none⟩

end Writer

/-! ## Recovery -/

section Recovery

variable (platform : VaultPlatform Bytes) (operation : RemoteApplyOperation)

/-- Whether the old bytes are back; an unreadable restoration throws. -/
def restoreRollback (target rollback : Locator) (base : Option Fingerprint) :
    VaultRoutine Bytes Locals Bool := do
  let seam := structuralVaultMutationSeam platform
  let moved ← tryCatch
    (do
      seam.trashLocator .elsewhere target
      seam.renameLocator .elsewhere rollback target
      return true)
    fun _ => return false
  if moved then do
    let restored ← seam.readBytes .elsewhere target
    return provesBase platform base restored
  else
    return false

def cleanSiblingsOf : VaultRoutine Bytes Locals (Option DeviceSyncReason) :=
  match contentTargetOf operation, operation.tempToken with
  | some target, some token => do
    let cleaned ← cleanupExactVaultSiblings platform (structuralVaultMutationSeam platform)
      target token
    return if cleaned then none else some .deviceApplyVaultFailed
  | _, _ => return none

def ambiguous : VaultRecovery := .blocked .deviceApplyRecoveryAmbiguous

def restoredVerdict : VaultRecovery :=
  .restored operation.eventSequence .deviceApplyVaultFailed none

def recoverPreparedContent (target : Locator) : VaultRoutine Bytes Locals VaultRecovery := do
  let cleanupFailure ← cleanSiblingsOf platform operation
  let targetBytes ← (structuralVaultMutationSeam platform).readBytes .elsewhere target
  if operation.operation == .updated && hashesTo platform targetBytes operation.baseFingerprint then
    return .clean operation.eventSequence cleanupFailure
  else if hashesTo platform targetBytes operation.finalFingerprint then
    return .mutated operation.eventSequence operation.finalFingerprint operation.tempToken
      cleanupFailure
  else if operation.operation != .updated && targetBytes.isNone then
    return .clean operation.eventSequence cleanupFailure
  else
    return ambiguous

def recoverPreparedTombstone : VaultRoutine Bytes Locals VaultRecovery := do
  let prior ← (structuralVaultMutationSeam platform).readBytes .elsewhere
    (operation.priorLocator.getD "")
  if prior.isNone then
    return .mutated operation.eventSequence none none none
  else if operation.baseFingerprint.isNone ||
      hashesTo platform prior operation.baseFingerprint then
    return .clean operation.eventSequence none
  else
    return ambiguous

/-- Which side of the rename the Vault sits on. -/
def recoverPreparedLocator : VaultRoutine Bytes Locals VaultRecovery := do
  let seam := structuralVaultMutationSeam platform
  let prior := operation.priorLocator.getD ""
  let target := operation.targetLocator.getD ""
  let priorExists ← seam.locatorExists .elsewhere prior
  let targetExists ← seam.locatorExists .elsewhere target
  if !priorExists && targetExists then do
    let bytes ← seam.readBytes .elsewhere target
    if hashesTo platform bytes operation.finalFingerprint then
      return .mutated operation.eventSequence operation.finalFingerprint none none
    else
      return ambiguous
  else if priorExists && !targetExists then do
    let bytes ← seam.readBytes .elsewhere prior
    if hashesTo platform bytes operation.finalFingerprint then
      return .clean operation.eventSequence none
    else
      return ambiguous
  else
    return ambiguous

def recoverPrepared : VaultRoutine Bytes Locals VaultRecovery :=
  match contentTargetOf operation with
  | some target => recoverPreparedContent platform operation target
  | none =>
    if operation.operation == .deleted then recoverPreparedTombstone platform operation
    else recoverPreparedLocator platform operation

def resumeReplace (target temp rollback : Locator) : VaultRoutine Bytes Locals VaultRecovery := do
  let seam := structuralVaultMutationSeam platform
  let isUpdate := operation.operation == .updated
  wrapping .recovery .deviceApplyVaultFailed true do
    let occupied ← if isUpdate then seam.locatorExists .elsewhere target else pure false
    if occupied then
      seam.renameLocator .replace target rollback
    seam.renameLocator .replace temp target
  let final ← seam.readBytes .elsewhere target
  if hashesTo platform final operation.finalFingerprint then do
    let cleanupFailure ← cleanSiblingsOf platform operation
    return .mutated operation.eventSequence operation.finalFingerprint operation.tempToken
      cleanupFailure
  else do
    let hasRollback ← if isUpdate then seam.locatorExists .elsewhere rollback else pure false
    let restored ←
      if hasRollback then restoreRollback platform target rollback operation.baseFingerprint
      else pure false
    return if restored then restoredVerdict operation else ambiguous

def recoverUnverified (target rollback : Locator) : VaultRoutine Bytes Locals VaultRecovery := do
  let hasRollback ← (structuralVaultMutationSeam platform).locatorExists .elsewhere rollback
  let restored ←
    if hasRollback then restoreRollback platform target rollback operation.baseFingerprint
    else pure false
  return if restored then restoredVerdict operation else ambiguous

def recoverAbsent (target rollback : Locator) : VaultRoutine Bytes Locals VaultRecovery := do
  let hasRollback ← (structuralVaultMutationSeam platform).locatorExists .elsewhere rollback
  if hasRollback then do
    let restored ← restoreRollback platform target rollback operation.baseFingerprint
    return if restored then restoredVerdict operation else ambiguous
  else
    return if operation.operation == .created then restoredVerdict operation else ambiguous

def recoverStaged (target temp rollback : Locator) : VaultRoutine Bytes Locals VaultRecovery := do
  let seam := structuralVaultMutationSeam platform
  let tempExists ← seam.locatorExists .elsewhere temp
  let targetBytes ← seam.readBytes .elsewhere target
  if hashesTo platform targetBytes operation.finalFingerprint then do
    let cleanupFailure ← cleanSiblingsOf platform operation
    return .mutated operation.eventSequence operation.finalFingerprint operation.tempToken
      cleanupFailure
  else if hashesTo platform targetBytes operation.baseFingerprint then
    if tempExists then resumeReplace platform operation target temp rollback
    else return restoredVerdict operation
  else if targetBytes.isSome then recoverUnverified platform operation target rollback
  else if tempExists then resumeReplace platform operation target temp rollback
  else recoverAbsent platform operation target rollback

def recoverTempVerified : VaultRoutine Bytes Locals VaultRecovery :=
  if operation.operation != .created && operation.operation != .updated then
    return ambiguous
  else match contentTargetOf operation, operation.tempToken with
    | some target, some token =>
      recoverStaged platform operation target (tempOf platform target token)
        (rollbackOf platform target token)
    | _, _ => return ambiguous

def recoverVaultMutated : VaultRoutine Bytes Locals VaultRecovery := do
  let cleanupFailure ← cleanSiblingsOf platform operation
  if operation.operation == .deleted then
    return .mutated operation.eventSequence none none cleanupFailure
  else do
    let proofLocator :=
      if operation.operation == .renamed || operation.operation == .moved then
        operation.targetLocator
      else contentTargetOf operation
    let proofBytes ← match proofLocator with
      | none => pure none
      | some locator => (structuralVaultMutationSeam platform).readBytes .elsewhere locator
    if hashesTo platform proofBytes operation.finalFingerprint then
      return .mutated operation.eventSequence operation.finalFingerprint operation.tempToken
        cleanupFailure
    else
      return ambiguous

/-- `recover`. -/
def recoverApply : VaultRoutine Bytes Locals VaultRecovery :=
  match operation.state with
  | .prepared => recoverPrepared platform operation
  | .tempVerified => recoverTempVerified platform operation
  | .vaultMutated => recoverVaultMutated platform operation
  | .locallyApplied | .serverAcknowledged => do
    let cleanupFailure ← cleanSiblingsOf platform operation
    return .clean operation.eventSequence cleanupFailure

end Recovery

end PersonalOs.DeviceSync

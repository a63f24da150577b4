import PersonalOs.DeviceSync.RecoveryRuns
import PersonalOs.DeviceSync.VaultWriter

/-!
# The remote event applier

One apply walks the durable lattice: it prepares the row and its echo marker, downloads the bytes,
lets the writer change the Vault, persists `vault_mutated`, cleans up and terminalizes. Every catch
site surfaces one closed observation.
-/

namespace PersonalOs.DeviceSync

open CallPrograms

variable {Bytes Locals : Type}

/-! ## The operands of an event -/

def DeviceSyncEvent.priorLocatorOf (event : DeviceSyncEvent) : Option Locator :=
  match event.operation with
  | .created | .restored => none
  | .updated => event.resultingLocator
  | .renamed | .moved | .deleted => event.priorLocator

def DeviceSyncEvent.targetLocatorOf (event : DeviceSyncEvent) : Option Locator :=
  match event.operation with
  | .created | .restored | .renamed | .moved => event.resultingLocator
  | .updated | .deleted => none

def isContentOperation : DeviceEventOperation → Bool
  | .created | .updated | .restored => true
  | _ => false

def isLocatorOperation : DeviceEventOperation → Bool
  | .renamed | .moved => true
  | _ => false

def DeviceSyncEvent.contentTargetLocator (event : DeviceSyncEvent) : Option Locator :=
  if event.operation == .updated then event.priorLocatorOf else event.targetLocatorOf

def DeviceSyncEvent.missingOperand (event : DeviceSyncEvent) : Bool :=
  (event.operation == .deleted && event.priorLocatorOf.isNone) ||
    (isLocatorOperation event.operation &&
      (event.priorLocatorOf.isNone || event.targetLocatorOf.isNone)) ||
    (isContentOperation event.operation &&
      (event.contentTargetLocator.isNone || event.currentVersionId.isNone ||
        event.currentFingerprint.isNone)) ||
    (isLocatorOperation event.operation && event.currentFingerprint.isNone &&
      event.baseFingerprint.isNone)

/-- The durable intent of an event; the staging token is the event id. -/
def DeviceSyncEvent.prepared (event : DeviceSyncEvent) : PreparedRemoteApply where
  eventSequence := event.eventSequence
  eventId := event.eventId
  sourceId := event.sourceId
  operation := event.operation
  priorLocator := event.priorLocatorOf
  targetLocator := event.targetLocatorOf
  baseFingerprint := event.baseFingerprint
  finalFingerprint := if event.operation == .deleted then none else event.currentFingerprint
  tempToken := if isContentOperation event.operation then some event.eventId else none
  rollbackToken := none

def DeviceSyncEvent.marker (event : DeviceSyncEvent) : EchoMarker where
  eventSequence := event.eventSequence
  sourceId := event.sourceId
  operation := event.operation
  priorLocator := event.priorLocatorOf
  targetLocator := event.targetLocatorOf
  finalFingerprint := if event.operation == .deleted then none else event.currentFingerprint

def isConflictReason (reason : DeviceSyncReason) : Bool :=
  reason == .deviceManifestTargetOccupied || reason == .deviceManifestLocalDiverged

/-- A download the caller has verified already. -/
structure VerifiedBytes (Bytes : Type) where
  declaredSha256 : String
  bytes : Bytes

/-- How a download fails: reported by its own lane, or as the applier classifies it. -/
inductive DownloadFailure
  | reported (failure : ClosedFailure)
  | classified (failure : ClosedFailure)

/-! ## The plumbing of the applier -/

def observeApply (stage : ApplyFailureStage) (reason : DeviceSyncReason) :
    VaultRoutine Bytes Locals Unit :=
  Routine.ask .elsewhere (fun _ => .ok ()) fun w =>
    { w with observations := w.observations ++ [(stage, reason)] }

def readRepository : VaultRoutine Bytes Locals DeviceSyncRepository :=
  Routine.ask .elsewhere (fun w => .ok w.repository) id

/-- The barrier a rejected call has persisted, or the reason it was thrown with. -/
def closedStoreReasonOf (error : Thrown) : VaultRoutine Bytes Locals DeviceSyncReason :=
  match storeReasonOf error with
  | some reason => do
    let repository ← readRepository
    return repository.state.barrierReason.getD reason
  | none => return .serverError

/-- The catch site of the calls of the repository. -/
def storeCatch {α : Type} (stage : ApplyFailureStage) (body : VaultRoutine Bytes Locals α) :
    VaultRoutine Bytes Locals α :=
  tryCatch body fun error =>
    match error with
    | .api failure => throw (.api failure)
    | error => do
      let mapped ← closedStoreReasonOf error
      observeApply stage mapped
      throw (.api ⟨mapped, false⟩)

def terminalize (eventSequence : Nat) (outcome : TerminalOutcome)
    (reason : Option DeviceSyncReason) (stage : ApplyFailureStage) :
    VaultRoutine Bytes Locals TerminalDeviceEvent := do
  storeCatch stage (storeCall (.terminalizeEvent ⟨eventSequence, outcome, reason⟩))
  return ⟨eventSequence, outcome, reason⟩

def transitionMutated (eventSequence : Nat) (rollbackToken : Option Nat)
    (stage : ApplyFailureStage) : VaultRoutine Bytes Locals Unit :=
  storeCatch stage <| storeCall <| .transitionRemoteApply
    { eventSequence := eventSequence
      state := .vaultMutated
      tempToken := none
      rollbackToken := some rollbackToken }

def outcomeOf (operation : DeviceEventOperation) : TerminalOutcome :=
  if operation == .deleted then .tombstoneHandled else .applied

def VaultRecovery.cleanupFailure : VaultRecovery → Option DeviceSyncReason
  | .clean _ failure | .mutated _ _ _ failure | .restored _ _ failure => failure
  | .blocked _ => none

def observeCleanup (recovery : VaultRecovery) : VaultRoutine Bytes Locals Unit :=
  match recovery.cleanupFailure with
  | some reason => observeApply .trash reason
  | none => return ()

/-- The proof no longer verifies, or a sibling could not be cleaned. -/
def observeRecovery (recovery : VaultRecovery) : VaultRoutine Bytes Locals Unit :=
  match recovery with
  | .blocked reason => observeApply .recovery reason
  | recovery => observeCleanup recovery

/-! ## One apply -/

section Apply

variable (platform : VaultPlatform Bytes) (event : DeviceSyncEvent)

/-- The replay of a settled event answers with the outcome that is still known. -/
def replayOf (repository : DeviceSyncRepository) : TerminalDeviceEvent :=
  match repository.readUnfinishedApply with
  | some settled =>
    if settled.eventSequence == event.eventSequence then
      match settled.safeErrorCode with
      | some reason => ⟨event.eventSequence, .conflict, some reason⟩
      | none =>
        ⟨event.eventSequence, if settled.operation == .deleted then .tombstoneHandled else .applied,
          none⟩
    else ⟨event.eventSequence, .applied, none⟩
  | none => ⟨event.eventSequence, .applied, none⟩

def downloadBytes (verified : Option (VerifiedBytes Bytes))
    (download : Except DownloadFailure Bytes) : VaultRoutine Bytes Locals (Option Bytes) :=
  if isContentOperation event.operation && event.currentVersionId.isSome then
    match verified.filter fun verified =>
        event.currentFingerprint.map (·.sha256) == some verified.declaredSha256 with
    | some verified => return some verified.bytes
    | none =>
      match download with
      | .ok bytes => return some bytes
      | .error (.reported failure) => throw (.api failure)
      | .error (.classified failure) => do
        observeApply .download failure.reason
        throw (.api failure)
  else return none

def mutateVault (bytes : Option Bytes) : VaultRoutine Bytes Locals Unit :=
  if event.operation == .deleted then do
    let _ ← trash platform
      { eventSequence := event.eventSequence
        priorLocator := event.priorLocatorOf.getD ""
        baseFingerprint := event.baseFingerprint }
    return ()
  else
    match isLocatorOperation event.operation, event.currentFingerprint.or event.baseFingerprint with
    | true, some renameProof => do
      let _ ← renameOrMove platform
        { eventSequence := event.eventSequence
          operation := event.operation
          priorLocator := event.priorLocatorOf.getD ""
          targetLocator := event.targetLocatorOf.getD ""
          expectedFinalFingerprint := renameProof }
      return ()
    | _, _ =>
      match event.contentTargetLocator, event.currentFingerprint, bytes with
      | some target, some finalFingerprint, some bytes => do
        let _ ← stageAndReplace platform
          { eventSequence := event.eventSequence
            operation := event.operation
            targetLocator := target
            expectedFinalFingerprint := finalFingerprint
            baseFingerprint := if event.operation == .updated then event.baseFingerprint else none
            bytes := bytes
            tempToken := event.eventId }
        return ()
      | _, _, _ => do
        observeApply .prepare .deviceEventUnavailable
        throw (.api ⟨.deviceEventUnavailable, false⟩)

/-- The catch site of the writer: a proven conflict, and old bytes that are back, settle durably. -/
def settleWriterFailure (error : Thrown) : VaultRoutine Bytes Locals TerminalDeviceEvent :=
  match error with
  | .api failure => throw (.api failure)
  | .writer stage reason retryable restoredToBase => do
    observeApply stage reason
    if !retryable && (isConflictReason reason || restoredToBase) then
      terminalize event.eventSequence .conflict (some reason) .localCommit
    else
      throw (.api ⟨reason, retryable⟩)
  | error => do
    let mapped ← closedStoreReasonOf error
    observeApply .vaultMutation mapped
    throw (.api ⟨mapped, false⟩)

def cleanupApplied : VaultRoutine Bytes Locals Unit := do
  let repository ← readRepository
  match repository.readUnfinishedApply with
  | some mutatedRow =>
    -- Another row may be the oldest unfinished one: then nothing is cleaned.
    if mutatedRow.eventSequence == event.eventSequence then
      tryCatch
        (do
          let recovery ← recoverApply platform mutatedRow
          observeRecovery recovery)
        fun error =>
          match error with
          | .writer _ reason _ _ => observeApply .trash reason
          | _ => observeApply .trash .deviceApplyVaultFailed
    else return ()
  | none => return ()

/-- The Vault has been changed: the proof, the cleanup and the terminal outcome. -/
def completeApply : VaultRoutine Bytes Locals TerminalDeviceEvent := do
  transitionMutated event.eventSequence event.prepared.tempToken .vaultMutation
  cleanupApplied platform event
  terminalize event.eventSequence (outcomeOf event.operation) none .localCommit

def applyNext (verified : Option (VerifiedBytes Bytes)) (download : Except DownloadFailure Bytes) :
    VaultRoutine Bytes Locals TerminalDeviceEvent := do
  storeCatch .prepare do
    storeCall (.prepareRemoteApply event.prepared)
    storeCall (.recordEchoMarker event.marker)
  let bytes ← downloadBytes event verified download
  let settled ← tryCatch
    (do
      mutateVault platform event bytes
      return none)
    fun error => some <$> settleWriterFailure event error
  match settled with
  | some terminal => return terminal
  | none => completeApply platform event

/-- `apply`. -/
def applyEvent (verified : Option (VerifiedBytes Bytes)) (download : Except DownloadFailure Bytes) :
    VaultRoutine Bytes Locals TerminalDeviceEvent := do
  let repository ← readRepository
  if event.eventSequence ≤ repository.state.appliedSequence then
    return replayOf event repository
  else if event.eventSequence != repository.state.appliedSequence + 1 then do
    observeApply .prepare .deviceCursorGap
    throw (.api ⟨.deviceCursorGap, false⟩)
  else if event.missingOperand then do
    observeApply .prepare .deviceEventUnavailable
    throw (.api ⟨.deviceEventUnavailable, false⟩)
  else applyNext platform event verified download

end Apply

/-! ## Recovery and settling -/

section Recovery

variable (platform : VaultPlatform Bytes)

def requestBarrier (reason : DeviceSyncReason) : VaultRoutine Bytes Locals Unit :=
  storeCatch .recovery do
    storeCall .nextObservationGeneration
    let repository ← readRepository
    storeCall (.startRepairBarrier repository.state.observationGeneration reason)

/-- The verdict on a recovered row. -/
def settleRecovery (operation : RemoteApplyOperation) (recovery : VaultRecovery) :
    VaultRoutine Bytes Locals Unit :=
  match recovery with
  | .clean _ _ =>
    if operation.state == .locallyApplied || operation.state == .serverAcknowledged then return ()
    else do
      storeCatch .recovery (storeCall (.abandonRemoteApply operation.eventSequence))
      let repository ← readRepository
      -- A bound manifest run already is the reconciliation that the barrier would force.
      if repository.state.activeManifestRunId.isSome then return ()
      else requestBarrier .deviceApplyRecoveryAbandoned
  | .mutated _ _ rollbackToken _ => do
    if operation.state != .vaultMutated && operation.state != .locallyApplied &&
        operation.state != .serverAcknowledged then
      transitionMutated operation.eventSequence rollbackToken .recovery
    let _ ← terminalize operation.eventSequence (outcomeOf operation.operation) none .recovery
    return ()
  | .restored _ reason _ => do
    let _ ← terminalize operation.eventSequence .conflict (some reason) .recovery
    return ()
  | .blocked reason => do
    observeApply .recovery reason
    requestBarrier reason

/-- The recovery of the row `recoverUnfinishedApply` has read. -/
def recoverOperation (operation : RemoteApplyOperation) : VaultRoutine Bytes Locals Unit := do
  let recovery ← tryCatch (recoverApply platform operation) fun error =>
    match error with
    | .api failure => throw (.api failure)
    | .writer stage reason retryable _ => do
      observeApply stage reason
      throw (.api ⟨reason, retryable⟩)
    | error => do
      let mapped ← closedStoreReasonOf error
      observeApply .recovery mapped
      throw (.api ⟨mapped, false⟩)
  observeCleanup recovery
  settleRecovery operation recovery

/-- The verdict on the leftover row of an apply that failed twice. -/
def settleLeftover (event : DeviceSyncEvent) (reason : DeviceSyncReason)
    (leftover : RemoteApplyOperation) (recovery : VaultRecovery) :
    VaultRoutine Bytes Locals TerminalDeviceEvent :=
  match recovery with
  | .clean _ _ => do
    storeCatch .recovery (storeCall (.abandonRemoteApply event.eventSequence))
    return ⟨event.eventSequence, .conflict, some reason⟩
  | .mutated _ _ rollbackToken _ => do
    if leftover.state != .vaultMutated then
      transitionMutated event.eventSequence rollbackToken .recovery
    terminalize event.eventSequence (outcomeOf leftover.operation) none .recovery
  | .restored _ reason _ => terminalize event.eventSequence .conflict (some reason) .recovery
  | .blocked reason => do
    observeApply .recovery reason
    throw (.api ⟨reason, false⟩)

/-- A recovery the writer refuses again closes the sequence with a conflict. -/
def recoverLeftover (event : DeviceSyncEvent) (leftover : RemoteApplyOperation) :
    VaultRoutine Bytes Locals (VaultRecovery ⊕ TerminalDeviceEvent) :=
  tryCatch
    (do
      let recovery ← recoverApply platform leftover
      return .inl recovery)
    fun error =>
      match error with
      | .api failure => throw (.api failure)
      | .writer stage reason _ _ => do
        observeApply stage reason
        let terminal ← terminalize event.eventSequence .conflict (some reason) .recovery
        return .inr terminal
      | error => do
        let mapped ← closedStoreReasonOf error
        observeApply .recovery mapped
        throw (.api ⟨mapped, false⟩)

def settleVaultFailedApply (event : DeviceSyncEvent) (reason : DeviceSyncReason) :
    VaultRoutine Bytes Locals TerminalDeviceEvent := do
  let repository ← readRepository
  match repository.readRemoteApply event.eventSequence with
  | none => return ⟨event.eventSequence, .conflict, some reason⟩
  | some leftover =>
    if leftover.eventId != event.eventId || leftover.state == .locallyApplied ||
        leftover.state == .serverAcknowledged then do
      observeApply .recovery .deviceApplyRecoveryAmbiguous
      throw (.api ⟨.deviceApplyRecoveryAmbiguous, false⟩)
    else do
      let recovered ← recoverLeftover platform event leftover
      match recovered with
      | .inl recovery => do
        observeCleanup recovery
        settleLeftover event reason leftover recovery
      | .inr terminal => return terminal

end Recovery

end PersonalOs.DeviceSync

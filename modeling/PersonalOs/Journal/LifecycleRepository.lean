import PersonalOs.Journal.Repository

/-!
# The lifecycle journal repository

`LifecycleRepository`: rename intents, the writer of rename, move, delete and restore events with
its replay lookup, the exits of a lifecycle event, restore reservations and the selector of the
lifecycle lane. It writes the same tables as the journal repository, one transaction a call.
-/

namespace PersonalOs.Journal

open PersonalOs.DeviceSync (Locator)

/-! ## Operands and answers -/

/-- An event with its operands, as the driver sends them. -/
structure FrozenLifecycleEvent where
  event : StoredJournalEvent
  operands : StoredOperands
deriving DecidableEq

/-- What recording a lifecycle event answers: the recorded event, or the replayed one. -/
structure LifecycleRecordResult where
  eventId : Nat
  idempotencyKey : Nat
  lifecycleState : LifecycleLocalFileState
deriving DecidableEq

/-- The outcome of a call that may commit a reconciliation and then raise
`PendingRenameIntentConflictError`. -/
inductive PendingRename (α : Type)
  | conflict
  | result (value : α)
deriving DecidableEq

inductive PendingRenameIntentOutcome
  | created
  | unchanged
  | cancelled
  | compensationPending
  | composed
deriving DecidableEq

inductive LifecycleTerminalResolution
  | noIntent
  | intentReconciled
deriving DecidableEq

inductive LifecycleTerminalState
  | blockedConflict
  | integrityFailed
deriving DecidableEq

def LifecycleTerminalState.state : LifecycleTerminalState → JournalNonRetryEventState
  | .blockedConflict => .blockedConflict
  | .integrityFailed => .integrityFailed

def LifecycleTerminalState.label : LifecycleTerminalState → JournalSafeErrorLabel
  | .blockedConflict => .blockedConflict
  | .integrityFailed => .integrityFailed

inductive RestoreReservationResult
  | reserved (priorNormalizedPath : Locator)
  | restoreTargetOccupied
  | restoreTargetBusy
  | restoreAlreadyPending
deriving DecidableEq

/-- `parentPath`: the path before the last separator. -/
def parentPath (normalizedPath : Locator) : Locator :=
  String.ofList ((normalizedPath.toList.reverse.dropWhile (· != '/')).drop 1).reverse

def initialStateFor : JournalOperation → LifecycleLocalFileState
  | .rename => .renamePending
  | .move => .movePending
  | .delete => .tombstoned
  | .restore => .restorePending
  | .create | .update => .active

/-- `LIFECYCLE_FINGERPRINT`: the zeros every lifecycle event carries. -/
def lifecycleFingerprint : FrozenFingerprint where
  sha256 := "0000000000000000000000000000000000000000000000000000000000000000"
  sizeBytes := 0
  mediaType := "application/octet-stream"

/-- `validateOptions`: the operand shape of each operation. -/
def validateOptions (operands : LifecycleEventOperands) (tombstoneId : Option Nat) : Bool :=
  match operands.operation with
  | .rename | .move =>
    operands.expectedLocator.isSome && operands.targetLocator.isSome &&
      operands.expectedLocator != operands.targetLocator && operands.tombstoneId.isNone
  | .delete =>
    operands.expectedLocator.isSome && operands.targetLocator.isNone && tombstoneId.isSome
  | .restore =>
    operands.expectedLocator.isNone && operands.targetLocator.isSome &&
      operands.tombstoneId.isSome && operands.predecessorEventId.isSome
  | .create | .update => false

namespace JournalRepository

variable (journal : JournalRepository)

/-! ## Rename intents -/

def isOpenRename (localFileId : Nat) (event : StoredJournalEvent) : Bool :=
  event.localFileId == localFileId && event.operation.isRebind && event.state.isPending

/-- `#readOpenRenamePrefixCountInSession`. -/
def openRenamePrefixCount (localFileId : Nat) : Nat :=
  (journal.journalEvents.filter (isOpenRename localFileId)).length

/-- `#reconcilePendingRenameIntentInSession`: reconciliation takes the locator over. -/
def reconcilePendingRenameIntent (localFileId : Nat) (currentPath : Locator) :
    Except JournalStoreError JournalRepository := do
  let cleared := (journal.dropDeferralOfFile localFileId).dropIntent localFileId
  let rebound ← cleared.rebindLocalFile localFileId currentPath fun row =>
    { row with lifecycleState := .reconcileRequired, openTombstoneId := none }
  .ok rebound.persistReconcileRequired

def setIntentCurrentPath (localFileId : Nat) (currentPath : Locator) : JournalRepository :=
  { journal with
    pendingRenameIntents := Tables.updateWhere journal.pendingRenameIntents
      (·.localFileId == localFileId) fun row => { row with currentPath := currentPath } }

def setIntentPriorPath (localFileId : Nat) (priorPath : Locator) : JournalRepository :=
  { journal with
    pendingRenameIntents := Tables.updateWhere journal.pendingRenameIntents
      (·.localFileId == localFileId) fun row => { row with priorPath := priorPath } }

def openIntent (intent : PendingRenameIntent) : JournalRepository :=
  { journal with pendingRenameIntents := journal.pendingRenameIntents ++ [intent] }

/-- The conflict exit of a rename observation: reconcile, commit, then raise. -/
def conflictOut {α : Type} (localFileId : Nat) (path : Locator) :
    Except JournalStoreError (PendingRename α × JournalRepository) := do
  let next ← journal.reconcilePendingRenameIntent localFileId path
  .ok (.conflict, next)

/-- Another file, or another file's intent, holds the observed target. -/
def isTargetReserved (localFileId : Nat) (path : Locator) : Bool :=
  (journal.localFiles.any fun row => row.normalizedPath == path &&
    row.localFileId != localFileId) ||
  journal.pendingRenameIntents.any fun row => row.currentPath == path &&
    row.localFileId != localFileId

def recordOrComposePendingRenameIntent (localFileId : Nat)
    (observedPriorPath observedCurrentPath : Locator) :
    Except JournalStoreError (PendingRename PendingRenameIntentOutcome × JournalRepository) :=
  if observedPriorPath.isEmpty || observedCurrentPath.isEmpty ||
      observedPriorPath == observedCurrentPath then .error .journalMutationFailed
  else match journal.readLocalFileByLocalFileId localFileId with
  | none => .error .journalMutationFailed
  | some file =>
    if file.lifecycleState == .restorePending then .error .journalMutationFailed
    else
      let isReserved := journal.isTargetReserved localFileId observedCurrentPath
      match journal.readPendingRenameIntentForLocalFile localFileId with
      | none =>
        if file.normalizedPath != observedPriorPath || isReserved then
          journal.conflictOut localFileId file.normalizedPath
        else .ok (.result .created, journal.openIntent
          { localFileId := localFileId
            priorPath := observedPriorPath
            currentPath := observedCurrentPath })
      | some stored =>
        if stored.priorPath == observedPriorPath && stored.currentPath == observedCurrentPath then
          .ok (.result .unchanged, journal)
        else if stored.currentPath != observedPriorPath || isReserved then
          journal.conflictOut localFileId stored.currentPath
        else if observedCurrentPath == stored.priorPath then
          match journal.openRenamePrefixCount localFileId with
          | 0 => .ok (.result .cancelled,
              (journal.dropDeferralOfFile localFileId).dropIntent localFileId)
          | 1 => .ok (.result .compensationPending,
              journal.setIntentCurrentPath localFileId stored.priorPath)
          | _ => journal.conflictOut localFileId stored.currentPath
        else .ok (.result .composed, journal.setIntentCurrentPath localFileId observedCurrentPath)

/-- `reparentAndClearPendingRenameIntent`, and the same after a consumed echo. -/
def reparentAndClearPendingRenameIntent (localFileId : Nat) :
    Except JournalStoreError JournalRepository :=
  match journal.readLocalFileByLocalFileId localFileId with
  | none => .error .journalMutationFailed
  | some file =>
    journal.reparentAndClearIntent localFileId
      (((journal.readPendingRenameIntentForLocalFile localFileId).map (·.currentPath)).getD
        file.normalizedPath) false

/-! ## The lifecycle event writer -/

/-- The operands `#findReplay` compares; the state of the stored event is not one of them. -/
def isReplayOf (localFileId : Nat) (operands : LifecycleEventOperands)
    (event : StoredJournalEvent) (stored : StoredOperands) : Bool :=
  event.localFileId == localFileId && event.operation == operands.operation &&
    stored.sourceId == operands.sourceId &&
    stored.expectedVersionId == operands.expectedVersionId &&
    stored.expectedLocator == operands.expectedLocator &&
    stored.targetLocator == operands.targetLocator &&
    stored.tombstoneId == operands.tombstoneId &&
    stored.policyRevision == operands.policyRevision &&
    stored.predecessorEventId == operands.predecessorEventId

def storesOperands (localFileId : Nat) (operands : LifecycleEventOperands)
    (event : StoredJournalEvent) : Bool :=
  journal.lifecycleOperands.any fun stored =>
    stored.eventId == event.eventId && isReplayOf localFileId operands event stored

/-- `#findReplay`: the newest stored event with the same operands, and the file's state. -/
def findReplay (localFileId : Nat) (operands : LifecycleEventOperands) :
    Option LifecycleRecordResult :=
  match journal.readLocalFileByLocalFileId localFileId with
  | none => none
  | some file =>
    ((journal.journalEvents.filter (journal.storesOperands localFileId operands)).argmax
      (·.age)).map fun event =>
        { eventId := event.eventId
          idempotencyKey := event.idempotencyKey
          lifecycleState := file.lifecycleState }

def lifecycleEventRow (localFileId : Nat) (operation : JournalOperation) (draw : Draw) :
    StoredJournalEvent where
  rowid := 0
  eventId := draw.eventId
  localFileId := localFileId
  idempotencyKey := draw.idempotencyKey
  operation := operation
  fingerprint := lifecycleFingerprint
  state := .queued
  isFingerprintFrozen := true
  attemptCount := 0
  nextEligibleRetryEpochMs := none
  safeError := none
  operationId := none
  createdAtEpochMs := draw.nowEpochMs

def operandsRow (operands : LifecycleEventOperands) (tombstoneId : Option Nat) (eventId : Nat) :
    StoredOperands where
  eventId := eventId
  sourceId := operands.sourceId
  expectedVersionId := operands.expectedVersionId
  expectedLocator := operands.expectedLocator
  targetLocator := operands.targetLocator
  tombstoneId := tombstoneId
  policyRevision := operands.policyRevision
  predecessorEventId := operands.predecessorEventId
  serverReceiptTombstoneId := none

/-- `insert into lifecycle_event_operands`: the event id is the key. -/
def appendOperands (row : StoredOperands) : Except JournalStoreError JournalRepository :=
  if journal.hasOperands row.eventId then .error .journalMutationFailed
  else .ok { journal with lifecycleOperands := journal.lifecycleOperands ++ [row] }

/-- The file columns a lifecycle record writes, its path apart. -/
def recordedFile (operands : LifecycleEventOperands) (tombstoneId : Option Nat)
    (row : LocalFile) : LocalFile :=
  { row with
    observedFingerprint :=
      if operands.operation.isRebind then
        operands.capturedFingerprint.getD row.observedFingerprint
      else row.observedFingerprint
    lastLocator := operands.targetLocator.or operands.expectedLocator
    openTombstoneId := if operands.operation.isRebind then none else tombstoneId
    lifecycleState := initialStateFor operands.operation }

def recordedPath (operands : LifecycleEventOperands) (newPath : Option Locator) : Option Locator :=
  if operands.operation.isRebind then newPath.or operands.targetLocator else none

/-- The update of `local_files` by a lifecycle record. -/
def writeRecordedFile (localFileId : Nat) (operands : LifecycleEventOperands)
    (tombstoneId : Option Nat) (newPath : Option Locator) :
    Except JournalStoreError JournalRepository :=
  match recordedPath operands newPath with
  | some path =>
    journal.rebindLocalFile localFileId path (recordedFile operands tombstoneId)
  | none => .ok (journal.updateLocalFile localFileId (recordedFile operands tombstoneId))

def isPredecessorStored (predecessorEventId : Option Nat) : Bool :=
  predecessorEventId.all fun eventId => (journal.readEvent eventId).isSome

def insertLifecycleEvent (localFileId : Nat) (operands : LifecycleEventOperands)
    (tombstoneId : Option Nat) (newPath : Option Locator) (draw : Draw) :
    Except JournalStoreError JournalRepository := do
  let withEvent ← journal.appendEvent (lifecycleEventRow localFileId operands.operation draw)
  let withOperands ← withEvent.appendOperands (operandsRow operands tombstoneId draw.eventId)
  withOperands.writeRecordedFile localFileId operands tombstoneId newPath

/-- `#recordLifecycleEventInSession`: a replay answers the stored event and writes nothing. -/
def writeLifecycleEvent (localFileId : Nat) (operands : LifecycleEventOperands)
    (tombstoneId : Option Nat) (newPath : Option Locator) (draw : Draw) :
    Except JournalStoreError (LifecycleRecordResult × JournalRepository) :=
  if !validateOptions operands tombstoneId then .error .journalMutationFailed
  else match journal.findReplay localFileId operands with
    | some replay => .ok (replay, journal)
    | none =>
      if !journal.isPredecessorStored operands.predecessorEventId then
        .error .journalMutationFailed
      else do
        let next ← journal.insertLifecycleEvent localFileId operands tombstoneId newPath draw
        .ok ({ eventId := draw.eventId
               idempotencyKey := draw.idempotencyKey
               lifecycleState := initialStateFor operands.operation }, next)

def recordLifecycleEventWithFreeze (localFileId : Nat) (operands : LifecycleEventOperands)
    (tombstoneId : Option Nat) (newPath : Option Locator) (draw : Draw) :
    Except JournalStoreError (LifecycleRecordResult × JournalRepository) :=
  if journal.hasLocalFile localFileId then
    ((journal.freezeEvents localFileId).dropDeferralOfFile localFileId).writeLifecycleEvent
      localFileId operands tombstoneId newPath draw
  else .error .journalMutationFailed

def pendingRenameOperands (file : LocalFile) (intent : PendingRenameIntent)
    (sourceId baseVersionId : Nat) (captured : FrozenFingerprint) : LifecycleEventOperands where
  operation := if parentPath intent.priorPath == parentPath intent.currentPath then .rename
    else .move
  sourceId := sourceId
  expectedVersionId := baseVersionId
  expectedLocator := some intent.priorPath
  targetLocator := some intent.currentPath
  tombstoneId := none
  policyRevision := file.policyRevisionNumber
  predecessorEventId := none
  capturedFingerprint := some captured

/-- The writes of a materialized prefix: freeze, clear the file's progress and deferral, record. -/
def materializePrefix (localFileId : Nat) (operands : LifecycleEventOperands)
    (currentPath : Locator) (draw : Draw) :
    Except JournalStoreError (LifecycleRecordResult × JournalRepository) :=
  let frozen := journal.freezeEvents localFileId
  let cleared := (frozen.dropMultipartOfFile localFileId fun event =>
    event.state == .deferredLifecycle).dropDeferralOfFile localFileId
  cleared.writeLifecycleEvent localFileId operands none (some currentPath) draw

/-- The open rename of a file, with its operands row (`#readOpenRenamePrefixInSession`). -/
def readOpenRenamePrefix (localFileId : Nat) :
    Option (StoredJournalEvent × StoredOperands) :=
  (journal.journalEvents.filter fun event =>
    isOpenRename localFileId event && journal.hasOperands event.eventId).argmin (·.age) |>.bind
      fun event => (journal.readOperands event.eventId).map fun stored => (event, stored)

def answerOpenPrefix (localFileId : Nat) (intent : PendingRenameIntent) :
    Except JournalStoreError
      (PendingRename (Option LifecycleRecordResult) × JournalRepository) :=
  match journal.readOpenRenamePrefix localFileId, journal.readLocalFileByLocalFileId localFileId
    with
  | some (event, stored), some file =>
    if stored.expectedLocator != some intent.priorPath then
      journal.conflictOut localFileId intent.currentPath
    else .ok (.result (some
      { eventId := event.eventId
        idempotencyKey := event.idempotencyKey
        lifecycleState := file.lifecycleState }), journal)
  | _, _ => .error .journalImageInvalid

/-- Materialize a file's durable intent as one lifecycle event. -/
def recordPendingRenameLifecycleEvent (localFileId : Nat) (captured : FrozenFingerprint)
    (draw : Draw) :
    Except JournalStoreError
      (PendingRename (Option LifecycleRecordResult) × JournalRepository) :=
  match journal.readPendingRenameIntentForLocalFile localFileId with
  | none => .ok (.result none, journal)
  | some intent =>
    match journal.openRenamePrefixCount localFileId with
    | 0 =>
      if intent.priorPath == intent.currentPath then
        journal.conflictOut localFileId intent.currentPath
      else match journal.readLocalFileByLocalFileId localFileId with
        | none => .error .journalMutationFailed
        | some file =>
          if file.lifecycleState == .restorePending then .error .journalMutationFailed
          else match file.sourceId, file.baseVersionId with
            | some sourceId, some baseVersionId =>
              if file.policyRevisionNumber < 1 then .error .journalImageInvalid
              else do
                let (recorded, next) ← journal.materializePrefix localFileId
                  (pendingRenameOperands file intent sourceId baseVersionId captured)
                  intent.currentPath draw
                .ok (.result (some recorded), next)
            | _, _ => .ok (.result none, journal)
    | 1 => journal.answerOpenPrefix localFileId intent
    | _ => .error .journalImageInvalid

/-! ## Exits of a lifecycle event -/

/-- A stored lifecycle event: its row joined with its operands row. -/
def readLifecycleEvent (eventId : Nat) : Option FrozenLifecycleEvent :=
  (journal.readEvent eventId).bind fun event =>
    (journal.readOperands eventId).map fun operands => { event := event, operands := operands }

/-- The terminal exit of a pending rename or move. -/
def resolveIntentAwareLifecycleTerminal (eventId : Nat)
    (terminalState : LifecycleTerminalState) (input : AttemptInput) :
    Except JournalStoreError (LifecycleTerminalResolution × JournalRepository) := do
  let _ ← ensure input.isValid JournalStoreError.journalMutationFailed
  match journal.readLifecycleEvent eventId with
  | none => .error .journalMutationFailed
  | some frozen =>
    if !frozen.event.operation.isRebind || !frozen.event.state.isPending then
      .error .journalMutationFailed
    else
      let closed := ((journal.recordAttempt (input.row eventId terminalState.label)).updateEvent
        eventId (closedRow terminalState.state terminalState.label)).dropMultipartOfEvent eventId
      match closed.readPendingRenameIntentForLocalFile frozen.event.localFileId with
      | none => .ok (.noIntent, closed)
      | some intent => do
        let next ← closed.reconcilePendingRenameIntent frozen.event.localFileId intent.currentPath
        .ok (.intentReconciled, next)

def commitLifecycleEvent (eventId : Nat) (serverTombstoneId : Option Nat) : JournalRepository :=
  let committed := journal.updateEvent eventId fun row =>
    { row with state := .committed, nextEligibleRetryEpochMs := none, safeError := none }
  match serverTombstoneId with
  | none => committed
  | some tombstoneId =>
    { committed with
      lifecycleOperands := Tables.updateWhere committed.lifecycleOperands
        (·.eventId == eventId) fun row =>
          { row with serverReceiptTombstoneId := some tombstoneId } }

/-- The file side of a committed rename or move: the deferral marker and a met intent go, an
intent with a later end starts at the committed target. -/
def commitRebind (localFileId : Nat) (target : Locator) : JournalRepository :=
  let active := journal.updateLocalFile localFileId fun row =>
    { row with lifecycleState := .active }
  let released := (((active.dropAttemptsOfFile localFileId fun event =>
    event.state == .deferredLifecycle).deleteEvents fun event =>
      event.localFileId == localFileId && event.state == .deferredLifecycle).dropDeferralOfFile
        localFileId)
  match released.readPendingRenameIntentForLocalFile localFileId with
  | none => released
  | some intent =>
    if intent.currentPath == target then released.dropIntent localFileId
    else released.setIntentPriorPath localFileId target

def recordLifecycleCommittedReceipt (eventId : Nat) (serverTombstoneId : Option Nat) :
    Except JournalStoreError JournalRepository :=
  match journal.readLifecycleEvent eventId with
  | none => .error .journalMutationFailed
  | some frozen =>
    let localFileId := frozen.event.localFileId
    let committed := journal.commitLifecycleEvent eventId serverTombstoneId
    match frozen.event.operation with
    | .rename | .move =>
      match frozen.operands.targetLocator with
      | none => .error .journalImageInvalid
      | some target => .ok (committed.commitRebind localFileId target)
    | .delete =>
      .ok (((committed.dropDeferralOfFile localFileId).dropIntent localFileId).updateLocalFile
        localFileId fun row => { row with lifecycleState := .tombstoned })
    | .restore =>
      match frozen.operands.targetLocator with
      | none => .error .journalMutationFailed
      | some target =>
        committed.rebindLocalFile localFileId target fun row =>
          { row with lifecycleState := .restored, restorePriorPath := none }
    | .create | .update => .error .journalMutationFailed

def consumeRestoreSuccessor (localFileId : Nat) : Except JournalStoreError JournalRepository :=
  if journal.hasLocalFile localFileId then
    .ok (journal.updateLocalFile localFileId fun row =>
      { row with openTombstoneId := none, lifecycleState := .restored })
  else .error .journalMutationFailed

def recordLifecycleReconcileForLocalFile (localFileId : Nat) :
    Except JournalStoreError JournalRepository :=
  match journal.readLocalFileByLocalFileId localFileId with
  | none => .error .journalMutationFailed
  | some file =>
    journal.reconcilePendingRenameIntent localFileId
      (((journal.readPendingRenameIntentForLocalFile localFileId).map (·.currentPath)).getD
        file.normalizedPath)

/-! ## Restore reservations -/

/-- The reservation of a checked row: it moves to the target and keeps where it came from. -/
def reserveRow (file : LocalFile) (targetPath : Locator) :
    Except JournalStoreError (RestoreReservationResult × JournalRepository) := do
  let priorPath :=
    if file.lifecycleState == .tombstoned then file.normalizedPath
    else (file.restorePriorPath.filter fun path => !path.isEmpty).getD file.normalizedPath
  let next ← journal.rebindLocalFile file.localFileId targetPath fun row =>
    { row with lifecycleState := .restorePending, restorePriorPath := some priorPath }
  .ok (.reserved priorPath, next)

/-- The row may be restored at all. -/
def isRestorable (file : LocalFile) : Bool :=
  file.sourceId.isSome && file.baseVersionId.isSome && file.openTombstoneId.isSome &&
    (file.lifecycleState == .tombstoned || file.lifecycleState == .restorePending) &&
    journal.journalEvents.any fun event =>
      event.localFileId == file.localFileId && event.operation == .delete

def hasPendingRestore (localFileId : Nat) : Bool :=
  journal.journalEvents.any fun event =>
    event.localFileId == localFileId && event.operation == .restore && event.state.isPending &&
      journal.hasOperands event.eventId

def reserveRestoreTarget (localFileId : Nat) (targetPath : Locator) :
    Except JournalStoreError (RestoreReservationResult × JournalRepository) :=
  if targetPath.isEmpty then .error .journalMutationFailed
  else match journal.readLocalFileByLocalFileId localFileId with
  | none => .error .journalMutationFailed
  | some file =>
    if !journal.isRestorable file then .error .journalMutationFailed
    else if journal.hasPendingRestore localFileId then .ok (.restoreAlreadyPending, journal)
    else if journal.pendingRenameIntents.any fun row =>
        row.priorPath == targetPath || row.currentPath == targetPath then
      .ok (.restoreTargetBusy, journal)
    else match journal.readLocalFileByPath targetPath with
      | none => journal.reserveRow file targetPath
      | some occupant =>
        if occupant.localFileId == localFileId then journal.reserveRow file targetPath
        else if occupant.sourceId.isSome then .ok (.restoreTargetOccupied, journal)
        else if journal.journalEvents.any fun event =>
            event.localFileId == occupant.localFileId && event.state.isStarted then
          .ok (.restoreTargetBusy, journal)
        else (journal.removeLocalMapping occupant.localFileId).reserveRow file targetPath

def releaseRestoreTarget (localFileId : Nat) : Except JournalStoreError JournalRepository :=
  match journal.readLocalFileByLocalFileId localFileId with
  | none => .error .journalMutationFailed
  | some file =>
    match file.restorePriorPath with
    | none => .error .journalMutationFailed
    | some priorPath =>
      if file.lifecycleState != .restorePending || priorPath.isEmpty then
        .error .journalMutationFailed
      else journal.rebindLocalFile localFileId priorPath fun row =>
        { row with lifecycleState := .tombstoned, restorePriorPath := none }

/-! ## The lifecycle lane -/

def isPredecessorCommitted (operands : StoredOperands) : Bool :=
  operands.predecessorEventId.all fun eventId =>
    (journal.readEvent eventId).any fun event => event.state == .committed

def admitsLifecycle (nowEpochMs : Nat) (event : StoredJournalEvent) : Bool :=
  !event.operation.isContent && isEligible nowEpochMs event &&
    (journal.readOperands event.eventId).any fun operands =>
      journal.isPredecessorCommitted operands

/-- The oldest lifecycle event the driver may send, with its operands. -/
def readOldestEligibleLifecycleEvent (nowEpochMs : Nat) :
    Except JournalStoreError (Option FrozenLifecycleEvent) :=
  if nowEpochMs = 0 then .error .journalQueryFailed
  else .ok ((Lanes.oldest (·.age) (journal.admitsLifecycle nowEpochMs)
    journal.journalEvents).bind fun event =>
      (journal.readOperands event.eventId).map fun operands =>
        { event := event, operands := operands })

end JournalRepository

end PersonalOs.Journal

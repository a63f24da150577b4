import PersonalOs.Journal.Contracts
import PersonalOs.Basis.Fallible
import PersonalOs.Basis.Lanes
import PersonalOs.Basis.Tables

/-!
# The journal repository

`JournalRepository`: capture with coalescing, the transitions of one event, receipts, attempts and
the selector of the content lane. Every mutation is one serialized transaction; a refused one
leaves the journal as it was.
-/

namespace PersonalOs.Journal

open PersonalOs.DeviceSync (Locator)

/-- The tables of the journal. Multipart progress is the list of the events that have some. -/
structure JournalRepository where
  localFiles : List LocalFile
  journalEvents : List StoredJournalEvent
  lifecycleOperands : List StoredOperands
  pendingRenameIntents : List PendingRenameIntent
  missingFileDeferrals : List MissingFileDeferral
  multipartUploadProgress : List Nat
  journalAttempts : List JournalAttempt
  isReconcileRequired : Bool
deriving DecidableEq

def JournalRepository.empty : JournalRepository where
  localFiles := []
  journalEvents := []
  lifecycleOperands := []
  pendingRenameIntents := []
  missingFileDeferrals := []
  multipartUploadProgress := []
  journalAttempts := []
  isReconcileRequired := false

/-! ## Operands and answers -/

/-- The operand of `recordCapture`: one settled observation. -/
structure JournalCaptureInput where
  normalizedPath : Locator
  fingerprint : FrozenFingerprint
  policyRevisionNumber : Nat
  admission : JournalCaptureAdmission
deriving DecidableEq

/-- What a capture answers: the event it recorded or rewrote, or the refusal. -/
inductive JournalCaptureResult
  | eventRecorded (eventId : Nat)
  | eventCoalesced (eventId : Nat)
  | captureRefused
deriving DecidableEq

/-- The ids and the clock value a recording call draws, and the bytes of the journal image. -/
structure Draw where
  localFileId : Nat
  eventId : Nat
  idempotencyKey : Nat
  nowEpochMs : Nat
  imageBytes : Nat
deriving DecidableEq

def JournalCaptureInput.newFile (input : JournalCaptureInput) (localFileId : Nat) : LocalFile where
  localFileId := localFileId
  normalizedPath := input.normalizedPath
  sourceId := none
  observedFingerprint := input.fingerprint
  baseVersionId := none
  policyRevisionNumber := input.policyRevisionNumber
  lastCommittedFingerprint := none
  lastLocator := none
  openTombstoneId := none
  lifecycleState := .active
  restorePriorPath := none

/-- The state a captured event is born in, and its label. -/
def JournalCaptureAdmission.birth :
    JournalCaptureAdmission → JournalEventState × Option JournalSafeErrorLabel
  | .policyAllowed => (.queued, none)
  | .blockedSize => (.blockedSize, some .blockedSize)
  | .excludedPolicy => (.excludedPolicy, some .excludedPolicy)

def JournalCaptureInput.newEvent (input : JournalCaptureInput) (localFileId : Nat)
    (operation : JournalOperation) (draw : Draw) : StoredJournalEvent where
  rowid := 0
  eventId := draw.eventId
  localFileId := localFileId
  idempotencyKey := draw.idempotencyKey
  operation := operation
  fingerprint := input.fingerprint
  state := input.admission.birth.1
  isFingerprintFrozen := input.admission != .policyAllowed
  attemptCount := 0
  nextEligibleRetryEpochMs := none
  safeError := input.admission.birth.2
  operationId := none
  createdAtEpochMs := draw.nowEpochMs

/-- The attempt an exit records, with its own validation. -/
structure AttemptInput where
  attemptedAtEpochMs : Nat
  requestCorrelationId : String
deriving DecidableEq

def AttemptInput.isValid (input : AttemptInput) : Bool :=
  0 < input.attemptedAtEpochMs && isRequestCorrelationId input.requestCorrelationId

def AttemptInput.row (input : AttemptInput) (eventId : Nat) (label : JournalSafeErrorLabel) :
    JournalAttempt where
  eventId := eventId
  attemptedAtEpochMs := input.attemptedAtEpochMs
  outcomeLabel := label
  requestCorrelationId := input.requestCorrelationId

inductive LocalFileMissingResolution
  | closedDeferredLifecycle
  | reconcileTakeover
  | waitingForRename
deriving DecidableEq

inductive ContentTerminalResolution
  | noIntent
  | intentPreserved
  | intentReparented
deriving DecidableEq

namespace JournalRepository

variable (journal : JournalRepository)

/-! ## Statements -/

def readEvent (eventId : Nat) : Option StoredJournalEvent :=
  Tables.lookup (·.eventId) journal.journalEvents eventId

def readLocalFileByLocalFileId (localFileId : Nat) : Option LocalFile :=
  Tables.lookup (·.localFileId) journal.localFiles localFileId

def readLocalFileByPath (normalizedPath : Locator) : Option LocalFile :=
  Tables.lookup (·.normalizedPath) journal.localFiles normalizedPath

def readPendingRenameIntentForLocalFile (localFileId : Nat) : Option PendingRenameIntent :=
  Tables.lookup (·.localFileId) journal.pendingRenameIntents localFileId

def readOperands (eventId : Nat) : Option StoredOperands :=
  Tables.lookup (·.eventId) journal.lifecycleOperands eventId

/-- `update journal_events set … where event_id = …`. -/
def updateEvent (eventId : Nat) (write : StoredJournalEvent → StoredJournalEvent) :
    JournalRepository :=
  { journal with
    journalEvents := Tables.updateWhere journal.journalEvents (·.eventId == eventId) write }

/-- `update local_files set … where local_file_id = …`, for columns without a constraint. -/
def updateLocalFile (localFileId : Nat) (write : LocalFile → LocalFile) : JournalRepository :=
  { journal with
    localFiles := Tables.updateWhere journal.localFiles (·.localFileId == localFileId) write }

/-- Another tracked file holds the path: the `unique` constraint of `normalized_path`. -/
def isPathTaken (localFileId : Nat) (path : Locator) : Bool :=
  (journal.localFiles.any fun row => row.localFileId == localFileId) &&
    journal.localFiles.any fun row => row.localFileId != localFileId && row.normalizedPath == path

/-- `update local_files set normalized_path = …, … where local_file_id = …`. -/
def rebindLocalFile (localFileId : Nat) (path : Locator) (write : LocalFile → LocalFile) :
    Except JournalStoreError JournalRepository :=
  if journal.isPathTaken localFileId path then .error .journalMutationFailed
  else .ok (journal.updateLocalFile localFileId fun row =>
    { write row with normalizedPath := path })

/-- `delete from journal_events where …`. -/
def deleteEvents (condition : StoredJournalEvent → Bool) : JournalRepository :=
  { journal with journalEvents := journal.journalEvents.filter fun event => !condition event }

def dropMultipartOfEvent (eventId : Nat) : JournalRepository :=
  { journal with
    multipartUploadProgress := journal.multipartUploadProgress.filter (· != eventId) }

def dropMultipartOfFile (localFileId : Nat) (condition : StoredJournalEvent → Bool) :
    JournalRepository :=
  { journal with
    multipartUploadProgress := journal.multipartUploadProgress.filter fun eventId =>
      !(journal.journalEvents.any fun event =>
        event.eventId == eventId && event.localFileId == localFileId && condition event) }

def dropAttemptsOfFile (localFileId : Nat) (condition : StoredJournalEvent → Bool) :
    JournalRepository :=
  { journal with
    journalAttempts := journal.journalAttempts.filter fun attempt =>
      !(journal.journalEvents.any fun event =>
        event.eventId == attempt.eventId && event.localFileId == localFileId && condition event) }

def dropDeferralOfFile (localFileId : Nat) : JournalRepository :=
  { journal with
    missingFileDeferrals :=
      journal.missingFileDeferrals.filter fun row => row.localFileId != localFileId }

def dropDeferralOfEvent (eventId : Nat) : JournalRepository :=
  { journal with
    missingFileDeferrals := journal.missingFileDeferrals.filter fun row => row.eventId != eventId }

def dropIntent (localFileId : Nat) : JournalRepository :=
  { journal with
    pendingRenameIntents :=
      journal.pendingRenameIntents.filter fun row => row.localFileId != localFileId }

def persistReconcileRequired : JournalRepository := { journal with isReconcileRequired := true }

/-- Drop the first `excess` attempts of one event. -/
def pruneAttempts (eventId : Nat) : Nat → List JournalAttempt → List JournalAttempt
  | 0, attempts => attempts
  | _, [] => []
  | excess + 1, attempt :: rest =>
    if attempt.eventId == eventId then pruneAttempts eventId excess rest
    else attempt :: pruneAttempts eventId (excess + 1) rest

/-- `#recordAttemptInSession`: append one attempt and keep the newest ten of its event. -/
def recordAttempt (attempt : JournalAttempt) : JournalRepository :=
  let attempts := journal.journalAttempts ++ [attempt]
  let stored := (attempts.filter fun row => row.eventId == attempt.eventId).length
  { journal with
    journalAttempts := pruneAttempts attempt.eventId (stored - maxEventAttemptHistory) attempts }

def nextRowid : Nat := (journal.journalEvents.map (·.rowid)).foldl max 0 + 1

/-- `insert into journal_events`: event id and idempotency key are unique. -/
def appendEvent (event : StoredJournalEvent) : Except JournalStoreError JournalRepository :=
  if journal.journalEvents.any fun row =>
      row.eventId == event.eventId || row.idempotencyKey == event.idempotencyKey then
    .error .journalMutationFailed
  else
    .ok { journal with
      journalEvents := journal.journalEvents ++ [{ event with rowid := journal.nextRowid }] }

/-- `#requireEventRow`. -/
def requireEvent (eventId : Nat) : Except JournalStoreError StoredJournalEvent :=
  match journal.readEvent eventId with
  | some event => .ok event
  | none => .error .journalMutationFailed

/-- `#requireEventRow` with `#requireNonTerminalEvent`. -/
def requirePendingEvent (eventId : Nat) : Except JournalStoreError StoredJournalEvent :=
  match journal.readEvent eventId with
  | some event => if event.state.isPending then .ok event else .error .journalMutationFailed
  | none => .error .journalMutationFailed

/-! ## Capture -/

/-- The newest event of the file a capture may rewrite. -/
def readCoalescableEvent (localFileId : Nat) : Option StoredJournalEvent :=
  if journal.journalEvents.any fun event =>
      event.localFileId == localFileId && !event.operation.isContent then none
  else
    (journal.journalEvents.filter fun event =>
      event.localFileId == localFileId && event.state.isCoalescable &&
        event.operation.isContent && !event.isFingerprintFrozen).argmax (·.age)

def isAtQueueLimit (imageBytes : Nat) : Bool :=
  maxPendingEvents ≤ (journal.journalEvents.filter (·.state.isPending)).length ||
    maxJournalSizeBytes ≤ imageBytes

def writeObservedFingerprint (localFileId : Nat) (input : JournalCaptureInput) :
    JournalRepository :=
  journal.updateLocalFile localFileId fun row =>
    { row with
      observedFingerprint := input.fingerprint
      policyRevisionNumber := input.policyRevisionNumber }

/-- The file of a new capture: inserted with a fresh id, or its observation rewritten. -/
def captureFile (input : JournalCaptureInput) (draw : Draw) :
    Except JournalStoreError JournalRepository :=
  match journal.readLocalFileByPath input.normalizedPath with
  | some file => .ok (journal.writeObservedFingerprint file.localFileId input)
  | none =>
    if journal.localFiles.any fun row => row.localFileId == draw.localFileId then
      .error .journalMutationFailed
    else .ok { journal with localFiles := journal.localFiles ++ [input.newFile draw.localFileId] }

def captureFileId (input : JournalCaptureInput) (draw : Draw) : Nat :=
  ((journal.readLocalFileByPath input.normalizedPath).map (·.localFileId)).getD draw.localFileId

/-- An update once the file has a source identity, else a create. -/
def captureOperation (input : JournalCaptureInput) : JournalOperation :=
  if ((journal.readLocalFileByPath input.normalizedPath).bind (·.sourceId)).isSome then .update
  else .create

/-- The unsent event a capture rewrites instead of appending one. -/
def captureCoalesces (input : JournalCaptureInput) (draw : Draw) : Option StoredJournalEvent :=
  if input.admission == .policyAllowed then
    journal.readCoalescableEvent (journal.captureFileId input draw)
  else none

/-- The row of an unsent event after a later observation of its file. -/
def coalescedRow (input : JournalCaptureInput) (row : StoredJournalEvent) : StoredJournalEvent :=
  { row with operation := journal.captureOperation input, fingerprint := input.fingerprint }

/-- The rewrite of an unsent event by a later observation of its file. -/
def coalesceInto (event : StoredJournalEvent) (input : JournalCaptureInput) : JournalRepository :=
  (journal.updateEvent event.eventId (journal.coalescedRow input)).writeObservedFingerprint
    event.localFileId input

/-- A new event for the observation. Either limit reached flags reconciliation. -/
def appendCapture (input : JournalCaptureInput) (draw : Draw) :
    Except JournalStoreError (JournalCaptureResult × JournalRepository) := do
  let withFile ← journal.captureFile input draw
  let next ← withFile.appendEvent
    (input.newEvent (journal.captureFileId input draw) (journal.captureOperation input) draw)
  .ok (.eventRecorded draw.eventId,
    if next.isAtQueueLimit draw.imageBytes then next.persistReconcileRequired else next)

def recordCapture (input : JournalCaptureInput) (draw : Draw) :
    Except JournalStoreError (JournalCaptureResult × JournalRepository) :=
  if input.normalizedPath.isEmpty then .error .journalMutationFailed
  else match journal.captureCoalesces input draw with
    | some event => .ok (.eventCoalesced event.eventId, journal.coalesceInto event input)
    | none =>
      if journal.isAtQueueLimit draw.imageBytes then
        .ok (.captureRefused, journal.persistReconcileRequired)
      else journal.appendCapture input draw

/-! ## Event transitions -/

/-- The fingerprint is frozen from here on. -/
def markEventPreflightStarted (eventId : Nat) : Except JournalStoreError JournalRepository := do
  let event ← journal.requireEvent eventId
  let _ ← ensure event.state.isCoalescable JournalStoreError.journalMutationFailed
  .ok (journal.updateEvent eventId fun row =>
    { row with state := .preflight, isFingerprintFrozen := true })

def parkedRow (safeError : JournalSafeErrorLabel) (nextEligibleRetryEpochMs : Nat)
    (row : StoredJournalEvent) : StoredJournalEvent :=
  { row with
    state := .waitingRetry
    attemptCount := row.attemptCount + 1
    nextEligibleRetryEpochMs := some nextEligibleRetryEpochMs
    safeError := some safeError }

def markEventWaitingRetry (eventId : Nat) (safeError : JournalSafeErrorLabel)
    (nextEligibleRetryEpochMs : Nat) : Except JournalStoreError JournalRepository := do
  let _ ← journal.requirePendingEvent eventId
  .ok (journal.updateEvent eventId (parkedRow safeError nextEligibleRetryEpochMs))

def markEventUploading (eventId : Nat) (operationId : String) :
    Except JournalStoreError JournalRepository := do
  let _ ← ensure (isOperationTokenShape operationId) JournalStoreError.journalMutationFailed
  let event ← journal.requireEvent eventId
  let _ ← ensure event.state.isStarted JournalStoreError.journalMutationFailed
  .ok (journal.updateEvent eventId fun row =>
    { row with state := .uploading, operationId := some operationId, isFingerprintFrozen := true })

def closedRow (terminalState : JournalNonRetryEventState) (safeError : JournalSafeErrorLabel)
    (row : StoredJournalEvent) : StoredJournalEvent :=
  { row with
    state := terminalState.state
    nextEligibleRetryEpochMs := none
    safeError := some safeError
    isFingerprintFrozen := true }

/-- `#closeContentEventInSession`: the row closes and its progress and deferral go. -/
def closeContentEvent (eventId : Nat) (terminalState : JournalNonRetryEventState)
    (safeError : JournalSafeErrorLabel) : JournalRepository :=
  ((journal.updateEvent eventId (closedRow terminalState safeError)).dropMultipartOfEvent
    eventId).dropDeferralOfEvent eventId

def markEventTerminal (eventId : Nat) (terminalState : JournalNonRetryEventState)
    (safeError : JournalSafeErrorLabel) : Except JournalStoreError JournalRepository := do
  let _ ← journal.requirePendingEvent eventId
  .ok (journal.closeContentEvent eventId terminalState safeError)

/-! ## Intent-aware exits -/

/-- `#reparentAndClearPendingRenameIntentInSession`: the file follows its intent. -/
def reparentAndClearIntent (localFileId : Nat) (currentPath : Locator)
    (requiresReconciliation : Bool) : Except JournalStoreError JournalRepository := do
  let cleared := (journal.dropDeferralOfFile localFileId).dropIntent localFileId
  let rebound ← cleared.rebindLocalFile localFileId currentPath fun row =>
    { row with
      lifecycleState := if requiresReconciliation then .reconcileRequired else .active
      openTombstoneId := none }
  .ok (if requiresReconciliation then rebound.persistReconcileRequired else rebound)

def parkForRename (eventId : Nat) (nextEligibleRetryEpochMs : Nat) : JournalRepository :=
  journal.updateEvent eventId (parkedRow .deferredLifecycle nextEligibleRetryEpochMs)

def countDeferral (localFileId : Nat) : JournalRepository :=
  { journal with
    missingFileDeferrals := Tables.updateWhere journal.missingFileDeferrals
      (·.localFileId == localFileId) fun row =>
        { row with deferredAttemptCount := row.deferredAttemptCount + 1 } }

def openDeferral (localFileId eventId : Nat) : JournalRepository :=
  { journal with
    missingFileDeferrals := journal.missingFileDeferrals ++
      [{ localFileId := localFileId, eventId := eventId, deferredAttemptCount := 1 }] }

/-- Park or close a content event whose file is gone. -/
def resolveIntentAwareLocalFileMissing (eventId : Nat) (input : AttemptInput)
    (nextEligibleRetryEpochMs : Nat) :
    Except JournalStoreError (LocalFileMissingResolution × JournalRepository) := do
  let _ ← ensure input.isValid JournalStoreError.journalMutationFailed
  let event ← journal.requirePendingEvent eventId
  let _ ← ensure event.operation.isContent JournalStoreError.journalMutationFailed
  let attempted := journal.recordAttempt (input.row eventId .deferredLifecycle)
  let closed := attempted.closeContentEvent eventId .deferredLifecycle .deferredLifecycle
  match attempted.readPendingRenameIntentForLocalFile event.localFileId with
  | none => .ok (.closedDeferredLifecycle, closed)
  | some intent =>
    match Tables.lookup (·.localFileId) attempted.missingFileDeferrals event.localFileId with
    | none =>
      .ok (.waitingForRename, (attempted.openDeferral event.localFileId eventId).parkForRename
        eventId nextEligibleRetryEpochMs)
    | some deferral =>
      if deferral.eventId != eventId ||
          deferral.deferredAttemptCount == pendingRenameMissingFileMaxDeferrals then do
        let next ← closed.reparentAndClearIntent event.localFileId intent.currentPath true
        .ok (.reconcileTakeover, next)
      else
        .ok (.waitingForRename, (attempted.countDeferral event.localFileId).parkForRename eventId
          nextEligibleRetryEpochMs)

/-- Close one content event; an intent without an owner to resolve it moves the file. -/
def resolveIntentAwareContentTerminal (eventId : Nat) (terminalState : JournalNonRetryEventState)
    (safeError : JournalSafeErrorLabel) (input : AttemptInput) :
    Except JournalStoreError (ContentTerminalResolution × JournalRepository) := do
  let _ ← ensure input.isValid JournalStoreError.journalMutationFailed
  let event ← journal.requirePendingEvent eventId
  let _ ← ensure event.operation.isContent JournalStoreError.journalMutationFailed
  let closed := (journal.recordAttempt (input.row eventId safeError)).closeContentEvent eventId
    terminalState safeError
  match closed.readPendingRenameIntentForLocalFile event.localFileId with
  | none => .ok (.noIntent, closed)
  | some intent =>
    match closed.readLocalFileByLocalFileId event.localFileId with
    | none => .error .journalImageInvalid
    | some owner =>
      let hasSuccessor := closed.journalEvents.any fun row =>
        row.localFileId == event.localFileId && row.eventId != eventId &&
          row.operation.isContent && row.state.isPending
      if (owner.sourceId.isSome && owner.baseVersionId.isSome) || hasSuccessor then
        .ok (.intentPreserved, closed)
      else do
        let next ← closed.reparentAndClearIntent event.localFileId intent.currentPath false
        .ok (.intentReparented, next)

/-! ## Freezing and removal -/

/-- The rewrite of one pending content event of a file that a lifecycle intent supersedes. -/
def freezeEvents (localFileId : Nat) : JournalRepository :=
  { journal with
    journalEvents := Tables.updateWhere journal.journalEvents
      (fun row => row.localFileId == localFileId && row.state.isPending &&
        row.operation.isContent) (closedRow .deferredLifecycle .deferredLifecycle) }

/-- The tracked file exists. -/
def hasLocalFile (localFileId : Nat) : Bool :=
  journal.localFiles.any fun row => row.localFileId == localFileId

/-- Close the file's pending content events as `deferred_lifecycle`. -/
def freezePendingForLocalFile (localFileId : Nat) : Except JournalStoreError JournalRepository :=
  if journal.hasLocalFile localFileId then
    let frozen := journal.freezeEvents localFileId
    .ok ((frozen.dropMultipartOfFile localFileId fun event =>
      event.state == .deferredLifecycle && event.operation.isContent).dropDeferralOfFile
        localFileId)
  else .error .journalMutationFailed

/-- `removeLocalMapping`, also what a reservation does to a phantom occupant. -/
def removeLocalMapping (localFileId : Nat) : JournalRepository :=
  if journal.hasLocalFile localFileId then
    let cleared := (((journal.dropDeferralOfFile localFileId).dropIntent
      localFileId).dropAttemptsOfFile localFileId fun _ => true).dropMultipartOfFile
        localFileId fun _ => true
    { cleared with
      lifecycleOperands := cleared.lifecycleOperands.filter fun row =>
        !(cleared.journalEvents.any fun event =>
          event.eventId == row.eventId && event.localFileId == localFileId)
      journalEvents := cleared.journalEvents.filter fun event => event.localFileId != localFileId
      localFiles := cleared.localFiles.filter fun row => row.localFileId != localFileId }
  else journal

/-! ## Receipts and attempts -/

def receiptRow (state : JournalEventState) (row : StoredJournalEvent) : StoredJournalEvent :=
  { row with
    state := state
    nextEligibleRetryEpochMs := none
    safeError := none
    isFingerprintFrozen := true }

/-- The event closes as `committed` or `no_change`; its file takes the returned identities and the
fingerprint the event froze. -/
def recordReceipt (state : JournalEventState) (eventId sourceId baseVersionId : Nat) :
    Except JournalStoreError JournalRepository := do
  let event ← journal.requirePendingEvent eventId
  let closed := ((journal.updateEvent eventId (receiptRow state)).dropMultipartOfEvent
    eventId).dropDeferralOfEvent eventId
  .ok (closed.updateLocalFile event.localFileId fun row =>
    { row with
      sourceId := some sourceId
      baseVersionId := some baseVersionId
      lastCommittedFingerprint := some event.fingerprint })

def recordCommittedReceipt (eventId sourceId baseVersionId : Nat) :
    Except JournalStoreError JournalRepository :=
  journal.recordReceipt .committed eventId sourceId baseVersionId

def recordNoChangeReceipt (eventId sourceId baseVersionId : Nat) :
    Except JournalStoreError JournalRepository :=
  journal.recordReceipt .noChange eventId sourceId baseVersionId

def recordEventAttempt (eventId : Nat) (input : AttemptInput) (label : JournalSafeErrorLabel) :
    Except JournalStoreError JournalRepository := do
  let _ ← ensure (isRequestCorrelationId input.requestCorrelationId)
    JournalStoreError.journalMutationFailed
  let _ ← journal.requireEvent eventId
  .ok (journal.recordAttempt (input.row eventId label))

/-! ## The content lane -/

/-- A retry time has passed, or none is scheduled. -/
def isRetryDue (nowEpochMs : Nat) (event : StoredJournalEvent) : Bool :=
  match event.nextEligibleRetryEpochMs with
  | none => true
  | some due => due ≤ nowEpochMs

/-- The states and retry times a selector admits. -/
def isEligible (nowEpochMs : Nat) (event : StoredJournalEvent) : Bool :=
  (event.state.isCoalescable && isRetryDue nowEpochMs event) || event.state.isStarted

def hasOperands (eventId : Nat) : Bool :=
  journal.lifecycleOperands.any fun row => row.eventId == eventId

def admitsContent (nowEpochMs : Nat) (event : StoredJournalEvent) : Bool :=
  isEligible nowEpochMs event && !journal.hasOperands event.eventId

/-- The oldest content event a pass may select. -/
def readOldestEligibleEvent (nowEpochMs : Nat) : Option StoredJournalEvent :=
  Lanes.oldest (·.age) (journal.admitsContent nowEpochMs) journal.journalEvents

end JournalRepository

end PersonalOs.Journal

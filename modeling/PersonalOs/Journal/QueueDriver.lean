import PersonalOs.Journal.LifecycleDriver

/-!
# The queue driver of the content lane

`runPass`, `#processEvent`, `#streamContent`, `#requestWithDeadline` and the helpers they call in
`queue-driver.ts`, cut at their awaits. A suspended pass is the await it waits at, with the
variables the code still needs there; `resume` runs the code from the settled await to the next
one, on what it reads in between. A run of the lifecycle driver or of the multipart transport is
one await.
-/

namespace PersonalOs.Journal

/-! ## Outcomes -/

/-- `SYNC_API_FAILURE_KINDS`. -/
inductive SyncApiFailureKind
  | networkOffline
  | networkTimeout
  | networkRateLimited
  | serverError
  | accessExpired
  | loginRequired
  | blockedSize
  | blockedConflict
  | integrityFailed
  | policyDenied
  | operationRetryRequired
deriving DecidableEq

/-- A thrown value: a `SyncApiError`, a `PendingRenameIntentReadError`, or any other. -/
inductive PassError
  | sync (kind : SyncApiFailureKind) (canResumeClaimedOperation : Bool)
  | pendingRenameIntentRead
  | other
deriving DecidableEq

def PassError.syncFailureKind : PassError → Option SyncApiFailureKind
  | .sync kind _ => some kind
  | _ => none

inductive JournalPreflightOutcome
  | singlePartUpload (operationId : String)
  | multipartUpload
  | committedReplay
  | noChange
  | excluded
  | conflict (operationId conflictId : Option String)
deriving DecidableEq

inductive MultipartUploadRunOutcome
  | committed
  | noChange
  | localContentChanged
  | localFileMissing
  | passDeadlineReached
deriving DecidableEq

/-- `QueuePassOutcome` of a pass that ran. -/
inductive QueuePassOutcome
  | completed
  | deadlineReached
  | stopped
  | loginRequired
  | retryScheduled
deriving DecidableEq

inductive PassEndReason
  | endStopped
  | endDeadlineBoundary
  | endLoginRequired
  | endRetryScheduled
  | endJournalFailure
deriving DecidableEq

/-- `PassContinuation`; the reason of a pass that ends. -/
abbrev PassContinuation := Option PassEndReason

/-- What a pass calls on the journal or the network. -/
inductive DriverCall
  | runOne
  | refreshAccessToken
  | markEventPreflightStarted (eventId : Nat)
  | preflightJournalEvent (eventId : Nat)
  | uploadSmallFileContent (operationId : String)
  | uploadSmallFileConflictCandidate (operationId : String)
  | runMultipart (eventId : Nat)
  | markEventUploading (eventId : Nat) (operationId : String)
  | recordCommittedReceipt (eventId : Nat)
  | recordNoChangeReceipt (eventId : Nat)
  | recordPendingRenameLifecycleEvent (localFileId : Nat)
  | resolveIntentAwareLocalFileMissing (eventId : Nat)
  | resolveIntentAwareContentTerminal (eventId : Nat) (terminalState : JournalNonRetryEventState)
      (safeError : JournalSafeErrorLabel)
  | nextObservationGeneration
  | startRepairBarrier
  | recordEventAttempt (eventId : Nat) (safeError : JournalSafeErrorLabel)
  | markEventWaitingRetry (eventId : Nat) (safeError : JournalSafeErrorLabel)
deriving DecidableEq

/-! ## Awaits -/

/-- Where a rejected await of an event is caught: in the `try` of `#processEvent`, in the second
stream of its `catch`, or in the loop, where the pass ends. -/
inductive CaughtBy
  | attempt
  | resumedStream
  | passLoop
deriving DecidableEq

/-- The requests that `#requestWithDeadline` issues. -/
inductive PassRequest
  | preflight
  | candidate (operationId : String)
  | content (operationId : String)
deriving DecidableEq

inductive PassPoint
  | lifecycleRun (isRetry : Bool)
  | lifecycleRefresh
  | preflightStart (event : StoredJournalEvent)
  | request (event : StoredJournalEvent) (request : PassRequest) (isRetry : Bool)
      (caught : CaughtBy)
  | requestRefresh (event : StoredJournalEvent) (request : PassRequest) (error : PassError)
      (caught : CaughtBy)
  | multipartRun (event : StoredJournalEvent) (isRetry : Bool)
  | multipartRefresh (event : StoredJournalEvent) (error : PassError)
  | markUploading (event : StoredJournalEvent) (operationId : String) (caught : CaughtBy)
  | readBytes (event : StoredJournalEvent) (request : PassRequest) (caught : CaughtBy)
  | fingerprint (event : StoredJournalEvent) (request : PassRequest) (caught : CaughtBy)
  | persistReceipt (event : StoredJournalEvent) (caught : CaughtBy)
  | materializeRename (event : StoredJournalEvent) (caught : CaughtBy)
  | resolveMissing (event : StoredJournalEvent) (caught : CaughtBy)
  | closeTerminal (event : StoredJournalEvent) (terminalState : JournalNonRetryEventState)
      (caught : CaughtBy)
  | repairGeneration
  | repairBarrier
  | recordAttempt (event : StoredJournalEvent) (safeError : JournalSafeErrorLabel)
      (ends : PassEndReason) (caught : CaughtBy)
  | parkRetry (event : StoredJournalEvent) (ends : PassEndReason) (caught : CaughtBy)
deriving DecidableEq

inductive PassSettled
  | resolved
  | lifecycle (outcome : LifecycleRunOutcome)
  | preflight (outcome : JournalPreflightOutcome)
  | bytes (length : Option Nat)
  | fingerprint (isFrozen : Bool)
  | multipart (outcome : MultipartUploadRunOutcome)
  | missing (resolution : LocalFileMissingResolution)
  | rejected (error : PassError)
deriving DecidableEq

/-- The variables of one pass and the await it waits at; none of them once it has ended. -/
structure PassRun where
  hasRefreshed : Bool
  requiresLogin : Bool
  processedEventCount : Nat
  point : Option PassPoint
  passOutcome : QueuePassOutcome
deriving DecidableEq

/-- What a resumption reads, beside the deadline of its pass. -/
structure PassEnvironment where
  passDeadlineEpochMs : Nat
  nowEpochMs : Nat
  isStopped : Bool
  hasLifecycleDriver : Bool
  isOutboundDispatchPaused : Bool
  journal : JournalRepository

/-- A pass at its next await, and what it called on the way. -/
abbrev PassMove := PassRun × List DriverCall

/-! ## Between two awaits -/

namespace PassRun

variable (run : PassRun)

def issue (call : DriverCall) (point : PassPoint) : PassMove :=
  ({ run with point := some point }, [call])

/-- An await of neither the journal nor the network. -/
def await (point : PassPoint) : PassMove := ({ run with point := some point }, [])

def finish (env : PassEnvironment) (reason : Option PassEndReason) : PassMove :=
  let isEligible := (env.journal.readOldestEligibleEvent env.nowEpochMs).isSome
  let outcome : QueuePassOutcome :=
    if env.isStopped then .stopped
    else match reason with
      | some .endLoginRequired => .loginRequired
      | some .endRetryScheduled => .retryScheduled
      | some .endJournalFailure => if run.requiresLogin then .loginRequired else .completed
      | some .endDeadlineBoundary => if isEligible then .deadlineReached else .completed
      | some .endStopped => .stopped
      | none =>
        if env.passDeadlineEpochMs ≤ env.nowEpochMs ∧ isEligible then .deadlineReached
        else .completed
  ({ run with point := none, passOutcome := outcome }, [])

end PassRun

namespace QueueDriver

variable (env : PassEnvironment) (run : PassRun)

def isPastDeadline : Bool := env.passDeadlineEpochMs ≤ env.nowEpochMs

/-- `#sendPreflight` throws before its request where the file is gone. -/
def sendPreflight (event : StoredJournalEvent) : List DriverCall :=
  if (env.journal.readLocalFileByLocalFileId event.localFileId).isSome then
    [.preflightJournalEvent event.eventId]
  else []

/-- `issue` of `#requestWithDeadline`. -/
def issueRequest (event : StoredJournalEvent) (request : PassRequest) (isRetry : Bool)
    (caught : CaughtBy) : PassMove :=
  let calls := match request with
    | .preflight => sendPreflight env event
    | .candidate operationId => [.uploadSmallFileConflictCandidate operationId]
    | .content operationId => [.uploadSmallFileContent operationId]
  ({ run with point := some (.request event request isRetry caught) }, calls)

/-- The start of `#processEvent`. -/
def processEvent (event : StoredJournalEvent) : PassMove :=
  if event.state = .queued ∨ event.state = .waitingRetry then
    run.issue (.markEventPreflightStarted event.eventId) (.preflightStart event)
  else issueRequest env run event .preflight false .attempt

/-- The content lane of one iteration. -/
def selectContent : PassMove :=
  match env.journal.readOldestEligibleEvent env.nowEpochMs with
  | none => run.finish env none
  | some event => processEvent env run event

def passLoop : PassMove :=
  if env.isStopped ∨ isPastDeadline env then run.finish env none
  else if env.isOutboundDispatchPaused then run.finish env none
  else if env.hasLifecycleDriver then run.issue .runOne (.lifecycleRun false)
  else selectContent env run

/-- What the loop does with the continuation of an event. -/
def continueWith (continuation : PassContinuation) : PassMove :=
  let counted := { run with processedEventCount := run.processedEventCount + 1 }
  match continuation with
  | none => passLoop env counted
  | some reason => counted.finish env (some reason)

/-! ## Helpers of one event -/

def closeTerminal (event : StoredJournalEvent) (terminalState : JournalNonRetryEventState)
    (safeError : JournalSafeErrorLabel) (caught : CaughtBy) : PassMove :=
  run.issue (.resolveIntentAwareContentTerminal event.eventId terminalState safeError)
    (.closeTerminal event terminalState caught)

def scheduleRetry (event : StoredJournalEvent) (safeError : JournalSafeErrorLabel)
    (ends : PassEndReason) (caught : CaughtBy) : PassMove :=
  match env.journal.readEvent event.eventId with
  | none => continueWith env run (some ends)
  | some _ => run.issue (.recordEventAttempt event.eventId safeError)
      (.recordAttempt event safeError ends caught)

def safeRetryLabel : Option SyncApiFailureKind → JournalSafeErrorLabel
  | some .networkOffline => .networkOffline
  | some .networkTimeout => .networkTimeout
  | some .networkRateLimited => .networkRateLimited
  | _ => .serverError

def handleFailure (event : StoredJournalEvent) (error : PassError) (caught : CaughtBy) : PassMove :=
  match error.syncFailureKind with
  | some .accessExpired | some .loginRequired =>
    scheduleRetry env { run with requiresLogin := true } event .loginRequired .endLoginRequired
      caught
  | some .blockedSize => closeTerminal run event .blockedSize .blockedSize caught
  | some .blockedConflict => closeTerminal run event .blockedConflict .blockedConflict caught
  | some .integrityFailed => closeTerminal run event .integrityFailed .integrityFailed caught
  | some .policyDenied => closeTerminal run event .excludedPolicy .excludedPolicy caught
  | kind => scheduleRetry env run event (safeRetryLabel kind) .endRetryScheduled caught

def claimedResumeOperationId (event : StoredJournalEvent) (error : PassError) : Option String :=
  if error = .sync .operationRetryRequired true ∧
      (event.state = .uploading ∨ event.state = .waitingRetry) then
    match event.operationId, env.journal.readEvent event.eventId with
    | some operationId, some persisted =>
      if persisted.operationId = some operationId then some operationId else none
    | _, _ => none
  else none

/-- The start of `#streamContent`. -/
def streamContent (event : StoredJournalEvent) (operationId : String) (caught : CaughtBy) :
    PassMove :=
  run.issue (.markEventUploading event.eventId operationId) (.markUploading event operationId caught)

def awaitRejected (event : StoredJournalEvent) (error : PassError) (caught : CaughtBy) : PassMove :=
  match caught with
  | .passLoop => run.finish env (some .endJournalFailure)
  | .resumedStream =>
    if env.isStopped then continueWith env run (some .endStopped)
    else handleFailure env run event error .passLoop
  | .attempt =>
    if env.isStopped then continueWith env run (some .endStopped)
    else if error = .pendingRenameIntentRead then run.finish env (some .endJournalFailure)
    else match claimedResumeOperationId env event error with
      | some operationId => streamContent run event operationId .resumedStream
      | none => handleFailure env run event error .passLoop

/-- `#handleIntentAwareLocalFileMissing`. -/
def handleLocalFileMissing (event : StoredJournalEvent) (caught : CaughtBy) : PassMove :=
  run.issue (.resolveIntentAwareLocalFileMissing event.eventId) (.resolveMissing event caught)

def startRepairBarrier : PassMove := run.issue .nextObservationGeneration .repairGeneration

def persistCommittedReceipt (event : StoredJournalEvent) (caught : CaughtBy) : PassMove :=
  run.issue (.recordCommittedReceipt event.eventId) (.persistReceipt event caught)

def persistNoChangeReceipt (event : StoredJournalEvent) (caught : CaughtBy) : PassMove :=
  run.issue (.recordNoChangeReceipt event.eventId) (.persistReceipt event caught)

/-- `#materializePendingRenameAfterContentReceipt`. -/
def materializePendingRename (event : StoredJournalEvent) (caught : CaughtBy) : PassMove :=
  match env.journal.readEvent event.eventId with
  | none => continueWith env run none
  | some persisted =>
    if persisted.operation.isContent then
      run.issue (.recordPendingRenameLifecycleEvent persisted.localFileId)
        (.materializeRename event caught)
    else continueWith env run none

/-! ## Conflict candidates and multipart runs -/

/-- The candidate is retained, or cannot become evidence. -/
def candidateRetained (event : StoredJournalEvent) : PassMove :=
  if env.isStopped then continueWith env run (some .endStopped)
  else closeTerminal run event .blockedConflict .blockedConflict .attempt

def candidateFailed (event : StoredJournalEvent) (error : PassError) : PassMove :=
  if env.isStopped then continueWith env run (some .endStopped)
  else handleFailure env run event error .attempt

/-- `#retainConflictCandidate`, up to the read of the file's bytes. -/
def retainConflictCandidate (event : StoredJournalEvent) (operationId conflictId : Option String) :
    PassMove :=
  match operationId, conflictId with
  | some operationId, none =>
    if isPastDeadline env then continueWith env run (some .endDeadlineBoundary)
    else match env.journal.readLocalFileByLocalFileId event.localFileId with
      | none => candidateRetained env run event
      | some _ => run.await (.readBytes event (.candidate operationId) .attempt)
  | _, _ => closeTerminal run event .blockedConflict .blockedConflict .attempt

def dispatchMultipartUpload (event : StoredJournalEvent) : PassMove :=
  if isPastDeadline env then continueWith env run (some .endDeadlineBoundary)
  else run.issue (.runMultipart event.eventId) (.multipartRun event false)

def multipartFailed (event : StoredJournalEvent) (error : PassError) : PassMove :=
  if env.isStopped then continueWith env run (some .endStopped)
  else handleFailure env run event error .attempt

/-! ## Settled awaits -/

def mayRefresh (error : PassError) : Bool :=
  error.syncFailureKind = some .accessExpired && !run.hasRefreshed

def requestFailed (event : StoredJournalEvent) (request : PassRequest) (error : PassError)
    (caught : CaughtBy) : PassMove :=
  match request with
  | .candidate _ => candidateFailed env run event error
  | .preflight | .content _ => awaitRejected env run event error caught

def preflightAnswered (event : StoredJournalEvent) : JournalPreflightOutcome → PassMove
  | .excluded => closeTerminal run event .excludedPolicy .excludedPolicy .attempt
  | .conflict operationId conflictId =>
    retainConflictCandidate env run event operationId conflictId
  | .committedReplay => persistCommittedReceipt run event .attempt
  | .noChange => persistNoChangeReceipt run event .attempt
  | .singlePartUpload operationId => streamContent run event operationId .attempt
  | .multipartUpload => dispatchMultipartUpload env run event

def bytesRead (event : StoredJournalEvent) (request : PassRequest) (length : Option Nat)
    (caught : CaughtBy) : PassMove :=
  match request, length with
  | .candidate _, none => candidateRetained env run event
  | _, none => handleLocalFileMissing run event caught
  | .candidate operationId, some _ => run.await (.fingerprint event (.candidate operationId) caught)
  | request, some length =>
    if maxFileSizeBytes < length then closeTerminal run event .blockedSize .blockedSize caught
    else run.await (.fingerprint event request caught)

def fingerprintDerived (event : StoredJournalEvent) (request : PassRequest) (isFrozen : Bool)
    (caught : CaughtBy) : PassMove :=
  if isFrozen then issueRequest env run event request false caught
  else match request with
    | .candidate _ => candidateRetained env run event
    | _ => closeTerminal run event .integrityFailed .integrityFailed caught

def multipartAnswered (event : StoredJournalEvent) : MultipartUploadRunOutcome → PassMove
  | .committed => persistCommittedReceipt run event .attempt
  | .noChange => persistNoChangeReceipt run event .attempt
  | .localContentChanged =>
    closeTerminal run event .integrityFailed .multipartLocalContentChanged .attempt
  | .localFileMissing => handleLocalFileMissing run event .attempt
  | .passDeadlineReached => continueWith env run (some .endDeadlineBoundary)

/-- The end of the lifecycle drain with a login verdict. -/
def lifecycleLoginRequired : PassMove :=
  if env.isStopped then run.finish env none else run.finish env (some .endLoginRequired)

def lifecycleDrained : PassMove :=
  if env.isStopped then run.finish env none else selectContent env run

def lifecycleAnswered (isRetry : Bool) (outcome : LifecycleRunOutcome) : PassMove :=
  if env.isStopped ∨ isPastDeadline env then lifecycleDrained env run
  else if outcome = .loginRequired then
    if isRetry ∨ run.hasRefreshed then lifecycleLoginRequired env run
    else { run with hasRefreshed := true }.issue .refreshAccessToken .lifecycleRefresh
  else if outcome = .committed then run.issue .runOne (.lifecycleRun false)
  else lifecycleDrained env run

/-- The code between a settled await and the next one. -/
def resume (point : PassPoint) (settled : PassSettled) : Option PassMove :=
  match point, settled with
  | .lifecycleRun isRetry, .lifecycle outcome => some (lifecycleAnswered env run isRetry outcome)
  | .lifecycleRun _, .rejected _ => some (lifecycleDrained env run)
  | .lifecycleRefresh, .resolved =>
    if env.isStopped then some (lifecycleDrained env run)
    else some (run.issue .runOne (.lifecycleRun true))
  | .lifecycleRefresh, .rejected _ =>
    some (lifecycleLoginRequired env { run with requiresLogin := true })
  | .preflightStart event, .resolved =>
    some (issueRequest env run event .preflight false .attempt)
  | .preflightStart event, .rejected error => some (awaitRejected env run event error .attempt)
  | .request event .preflight _ _, .preflight outcome =>
    if env.isStopped then some (continueWith env run (some .endStopped))
    else some (preflightAnswered env run event outcome)
  | .request event (.candidate _) _ _, .resolved => some (candidateRetained env run event)
  | .request event (.content _) _ caught, .resolved =>
    if env.isStopped then some (continueWith env run (some .endStopped))
    else some (persistCommittedReceipt run event caught)
  | .request event request isRetry caught, .rejected error =>
    if !isRetry && mayRefresh run error then
      some ({ run with hasRefreshed := true }.issue .refreshAccessToken
        (.requestRefresh event request error caught))
    else some (requestFailed env run event request error caught)
  | .requestRefresh event request error caught, .resolved =>
    if env.isStopped then some (requestFailed env run event request error caught)
    else some (issueRequest env run event request true caught)
  | .requestRefresh event request error caught, .rejected _ =>
    some (requestFailed env { run with requiresLogin := true } event request error caught)
  | .multipartRun event _, .multipart outcome =>
    if env.isStopped then some (continueWith env run (some .endStopped))
    else some (multipartAnswered env run event outcome)
  | .multipartRun event isRetry, .rejected error =>
    if error = .pendingRenameIntentRead then some (awaitRejected env run event error .attempt)
    else if !isRetry && mayRefresh run error then
      some ({ run with hasRefreshed := true }.issue .refreshAccessToken
        (.multipartRefresh event error))
    else some (multipartFailed env run event error)
  | .multipartRefresh event _, .resolved =>
    if env.isStopped then some (continueWith env run (some .endStopped))
    else some (run.issue (.runMultipart event.eventId) (.multipartRun event true))
  | .multipartRefresh event error, .rejected _ =>
    some (multipartFailed env { run with requiresLogin := true } event error)
  | .markUploading event operationId caught, .resolved =>
    if env.isStopped then some (continueWith env run (some .endStopped))
    else if isPastDeadline env then some (continueWith env run (some .endDeadlineBoundary))
    else match env.journal.readLocalFileByLocalFileId event.localFileId with
      | none => some (handleLocalFileMissing run event caught)
      | some _ => some (run.await (.readBytes event (.content operationId) caught))
  | .markUploading event _ caught, .rejected error => some (awaitRejected env run event error caught)
  | .readBytes event request caught, .bytes length =>
    some (bytesRead env run event request length caught)
  | .readBytes event request caught, .rejected error =>
    some (requestFailed env run event request error caught)
  | .fingerprint event request caught, .fingerprint isFrozen =>
    some (fingerprintDerived env run event request isFrozen caught)
  | .fingerprint event request caught, .rejected error =>
    some (requestFailed env run event request error caught)
  | .persistReceipt event caught, .resolved => some (materializePendingRename env run event caught)
  | .persistReceipt event caught, .rejected error => some (awaitRejected env run event error caught)
  | .materializeRename _ _, .resolved => some (continueWith env run none)
  | .materializeRename event caught, .rejected error =>
    some (awaitRejected env run event error caught)
  | .resolveMissing _ _, .missing .waitingForRename =>
    some (continueWith env run (some .endRetryScheduled))
  | .resolveMissing _ _, .missing .closedDeferredLifecycle => some (continueWith env run none)
  | .resolveMissing _ _, .missing .reconcileTakeover => some (startRepairBarrier run)
  | .resolveMissing event caught, .rejected error => some (awaitRejected env run event error caught)
  | .closeTerminal _ terminalState _, .resolved =>
    if terminalState = .blockedConflict then some (startRepairBarrier run)
    else some (continueWith env run none)
  | .closeTerminal event _ caught, .rejected error =>
    some (awaitRejected env run event error caught)
  | .repairGeneration, .resolved => some (run.issue .startRepairBarrier .repairBarrier)
  | .repairGeneration, .rejected _ => some (continueWith env run none)
  | .repairBarrier, .resolved => some (continueWith env run none)
  | .repairBarrier, .rejected _ => some (continueWith env run none)
  | .recordAttempt event safeError ends caught, .resolved =>
    some (run.issue (.markEventWaitingRetry event.eventId safeError) (.parkRetry event ends caught))
  | .recordAttempt event _ _ caught, .rejected error =>
    some (awaitRejected env run event error caught)
  | .parkRetry _ ends _, .resolved => some (continueWith env run (some ends))
  | .parkRetry event _ caught, .rejected error => some (awaitRejected env run event error caught)
  | _, _ => none

/-! ## Quiet awaits -/

def isFileGone (event : StoredJournalEvent) : Bool :=
  (env.journal.readLocalFileByLocalFileId event.localFileId).isNone

def closesEvent : Option SyncApiFailureKind → Bool
  | some .blockedSize | some .blockedConflict | some .integrityFailed | some .policyDenied => true
  | _ => false

def failsQuietly (event : StoredJournalEvent) (error : PassError) : Bool :=
  env.isStopped ||
    (!closesEvent error.syncFailureKind && (env.journal.readEvent event.eventId).isNone)

/-- A rejected await whose `catch` makes no call. -/
def throwsQuietly (event : StoredJournalEvent) (error : PassError) : CaughtBy → Bool
  | .passLoop => true
  | .resumedStream => failsQuietly env event error
  | .attempt => error = .pendingRenameIntentRead ||
    (env.isStopped || (claimedResumeOperationId env event error).isNone) &&
      failsQuietly env event error

/-- The same for the rejected await of a request. -/
def requestFailsQuietly (event : StoredJournalEvent) (request : PassRequest) (error : PassError)
    (caught : CaughtBy) : Bool :=
  match request with
  | .candidate _ => failsQuietly env event error
  | .preflight | .content _ => throwsQuietly env event error caught

/-- The verdicts that are left to the next pass once the deadline has passed. -/
def leavesToNextPass : JournalPreflightOutcome → Bool
  | .conflict (some _) none | .multipartUpload => true
  | _ => false

/-- The settled awaits after which a pass that is stopped, or past its deadline, makes no further
call on the journal or the network. -/
def isQuiet (point : PassPoint) (settled : PassSettled) : Bool :=
  match point, settled with
  | .lifecycleRun _, _ =>
    env.isStopped || (env.journal.readOldestEligibleEvent env.nowEpochMs).isNone
  | .lifecycleRefresh, .resolved => env.isStopped
  | .preflightStart event, .resolved => isFileGone env event
  | .preflightStart event, .rejected error => throwsQuietly env event error .attempt
  | .request _ .preflight _ _, .preflight outcome => env.isStopped || leavesToNextPass outcome
  | .request event request isRetry caught, .rejected error =>
    (isRetry || !mayRefresh run error) && requestFailsQuietly env event request error caught
  | .request .., _ => env.isStopped
  | .requestRefresh event .preflight _ _, .resolved => env.isStopped || isFileGone env event
  | .requestRefresh _ _ _ _, .resolved => env.isStopped
  | .requestRefresh event request error caught, _ => requestFailsQuietly env event request error caught
  | .multipartRun _ _, .multipart outcome => env.isStopped || outcome = .passDeadlineReached
  | .multipartRun event isRetry, .rejected error =>
    error = .pendingRenameIntentRead ||
      (isRetry || !mayRefresh run error) && failsQuietly env event error
  | .multipartRefresh _ _, .resolved => env.isStopped
  | .multipartRefresh event error, .rejected _ => failsQuietly env event error
  | .markUploading _ _ _, .resolved => true
  | .markUploading event _ caught, .rejected error => throwsQuietly env event error caught
  | .readBytes _ (.candidate _) _, .bytes none => env.isStopped
  | .readBytes _ _ _, .bytes none => false
  | .readBytes _ (.candidate _) _, .bytes (some _) => true
  | .readBytes _ _ _, .bytes (some length) => length ≤ maxFileSizeBytes
  | .readBytes event request caught, .rejected error =>
    requestFailsQuietly env event request error caught
  | .fingerprint _ (.candidate _) _, .fingerprint false => env.isStopped
  | .fingerprint event request caught, .rejected error =>
    requestFailsQuietly env event request error caught
  | .persistReceipt event _, .resolved =>
    ((env.journal.readEvent event.eventId).all fun persisted => !persisted.operation.isContent)
  | .persistReceipt event caught, .rejected error => throwsQuietly env event error caught
  | .materializeRename event caught, .rejected error => throwsQuietly env event error caught
  | .resolveMissing _ _, .missing resolution => resolution ≠ .reconcileTakeover
  | .resolveMissing event caught, .rejected error => throwsQuietly env event error caught
  | .closeTerminal _ terminalState _, .resolved => terminalState ≠ .blockedConflict
  | .closeTerminal event _ caught, .rejected error => throwsQuietly env event error caught
  | .recordAttempt event _ _ caught, .rejected error => throwsQuietly env event error caught
  | .parkRetry event _ caught, .rejected error => throwsQuietly env event error caught
  | .lifecycleRefresh, .rejected _ | .materializeRename _ _, .resolved
  | .repairGeneration, .rejected _ | .repairBarrier, _ | .parkRetry _ _ _, .resolved => true
  | _, _ => false

/-- The quiet awaits after which the pass waits again: for the fingerprint of the bytes, or for a
preflight that is rejected before its request. -/
def suspends : PassPoint → PassSettled → Bool
  | .preflightStart _, .resolved | .requestRefresh _ .preflight _ _, .resolved
  | .readBytes _ _ _, .bytes (some _) => true
  | _, _ => false

variable {env : PassEnvironment} {run : PassRun}

/-- The pass is stopped, or past its deadline. -/
abbrev IsOver (env : PassEnvironment) : Prop :=
  env.isStopped = true ∨ env.passDeadlineEpochMs ≤ env.nowEpochMs

theorem passLoop_over (hp : IsOver env) : (passLoop env run).2 = [] := by
  have he : env.isStopped = true ∨ isPastDeadline env = true := hp.imp_right decide_eq_true
  rw [passLoop, if_pos he]
  rfl

theorem continueWith_over (hp : IsOver env) (c : PassContinuation) :
    (continueWith env run c).2 = [] := by
  cases c with
  | none => exact passLoop_over hp
  | some r => rfl

variable {caught : CaughtBy} {event : StoredJournalEvent} {error : PassError}

theorem scheduleRetry_quiet {se : JournalSafeErrorLabel} {e : PassEndReason}
    (hn : (env.journal.readEvent event.eventId).isNone = true) :
    (scheduleRetry env run event se e caught).2 = [] := by
  rw [scheduleRetry, Option.isNone_iff_eq_none.mp hn]
  rfl

theorem handleFailure_quiet (hr : env.isStopped = false)
    (hq : failsQuietly env event error = true) :
    (handleFailure env run event error caught).2 = [] := by
  rw [failsQuietly, hr, Bool.false_or, Bool.and_eq_true] at hq
  obtain ⟨ho', hn⟩ := hq
  rw [handleFailure]
  split
  · exact scheduleRetry_quiet hn
  · exact scheduleRetry_quiet hn
  · next hk => rw [hk] at ho'; cases ho'
  · next hk => rw [hk] at ho'; cases ho'
  · next hk => rw [hk] at ho'; cases ho'
  · next hk => rw [hk] at ho'; cases ho'
  · exact scheduleRetry_quiet hn

theorem failed_quiet (hq : failsQuietly env event error = true) :
    (if env.isStopped then continueWith env run (some .endStopped)
      else handleFailure env run event error caught).2 = [] := by
  split
  · rfl
  next hr => exact handleFailure_quiet (Bool.eq_false_iff.mpr hr) hq

theorem awaitRejected_quiet (hq : throwsQuietly env event error caught = true) :
    (awaitRejected env run event error caught).2 = [] := by
  cases caught with
  | passLoop => rfl
  | resumedStream => exact failed_quiet hq
  | attempt =>
    rw [awaitRejected]
    split
    · rfl
    next hr =>
      split
      · rfl
      next hk =>
        have hr := Bool.eq_false_iff.mpr hr
        rw [throwsQuietly, decide_eq_false hk, Bool.false_or, hr, Bool.false_or,
          Bool.and_eq_true] at hq
        rw [Option.isNone_iff_eq_none.mp hq.1]
        exact handleFailure_quiet hr hq.2

theorem requestFailed_quiet {q : PassRequest}
    (hq : requestFailsQuietly env event q error caught = true) :
    (requestFailed env run event q error caught).2 = [] := by
  cases q with
  | candidate => exact failed_quiet hq
  | preflight => exact awaitRejected_quiet hq
  | content => exact awaitRejected_quiet hq

theorem lifecycleDrained_quiet (hq : (env.isStopped ||
    (env.journal.readOldestEligibleEvent env.nowEpochMs).isNone) = true) :
    (lifecycleDrained env run).2 = [] := by
  rw [lifecycleDrained]
  split
  · rfl
  next hr =>
    rw [Bool.eq_false_iff.mpr hr, Bool.false_or] at hq
    rw [selectContent, Option.isNone_iff_eq_none.mp hq]
    rfl

theorem issueRequest_gone {ir : Bool} (hg : isFileGone env event = true) :
    (issueRequest env run event .preflight ir caught).2 = [] := by
  show sendPreflight env event = []
  rw [sendPreflight, Option.isNone_iff_eq_none.mp hg]
  rfl

theorem preflightAnswered_quiet (he : isPastDeadline env = true)
    {o : JournalPreflightOutcome} (hq : leavesToNextPass o = true) :
    (preflightAnswered env run event o).2 = [] := by
  cases o with
  | multipartUpload =>
    rw [preflightAnswered, dispatchMultipartUpload, if_pos he]
    rfl
  | conflict oi ci =>
    cases oi with
    | none => cases hq
    | some oi =>
      cases ci with
      | some ci => cases hq
      | none =>
        rw [preflightAnswered, retainConflictCandidate, if_pos he]
        rfl
  | singlePartUpload | committedReplay | noChange | excluded => cases hq

/-- A stopped pass, or one past its deadline, makes no further call after a quiet await. -/
theorem resume_quiet {po : PassPoint} {s : PassSettled} {m : PassMove}
    (hp : IsOver env) (hq : isQuiet env run po s = true)
    (hr : resume env run po s = some m) : m.2 = [] := by
  have he : env.isStopped ≠ true → isPastDeadline env = true := fun hru =>
    decide_eq_true (hp.resolve_left hru)
  have hen : env.isStopped = true ∨ isPastDeadline env = true := hp.imp_right decide_eq_true
  rw [resume.eq_def] at hr
  split at hr
  · cases hr
    rw [lifecycleAnswered, if_pos hen]
    exact lifecycleDrained_quiet hq
  · cases hr
    exact lifecycleDrained_quiet hq
  · have hs : env.isStopped = true := hq
    rw [if_pos hs] at hr
    cases hr
    exact lifecycleDrained_quiet (by rw [hs, Bool.true_or])
  · cases hr
    rw [lifecycleLoginRequired]
    split <;> rfl
  · cases hr
    exact issueRequest_gone hq
  · cases hr
    exact awaitRejected_quiet hq
  · next event ir caught o =>
    have hq : (env.isStopped || leavesToNextPass o) = true := hq
    split at hr
    · cases hr
      rfl
    next hru =>
      cases hr
      rw [Bool.eq_false_iff.mpr hru, Bool.false_or] at hq
      exact preflightAnswered_quiet (he hru) hq
  · have hs : env.isStopped = true := hq
    cases hr
    rw [candidateRetained, if_pos hs]
    rfl
  · have hs : env.isStopped = true := hq
    rw [if_pos hs] at hr
    cases hr
    rfl
  · next event q ir caught error =>
    have hq : ((ir || !mayRefresh run error) &&
        requestFailsQuietly env event q error caught) = true := by
      cases q <;> exact hq
    obtain ⟨hk, hq⟩ := Bool.and_eq_true_iff.mp hq
    split at hr
    next hre =>
      rw [← Bool.not_not (ir || !mayRefresh run error), Bool.not_or, Bool.not_not, hre] at hk
      cases hk
    next =>
      cases hr
      exact requestFailed_quiet hq
  · next event q error caught =>
    split at hr
    next hs =>
      cases hr
      refine requestFailed_quiet ?_
      cases q <;> cases caught <;> simp [requestFailsQuietly, throwsQuietly, failsQuietly, hs]
    next hru =>
      cases hr
      have hru := Bool.eq_false_iff.mpr hru
      cases q with
      | preflight =>
        have hq : (env.isStopped || isFileGone env event) = true := hq
        rw [hru, Bool.false_or] at hq
        exact issueRequest_gone hq
      | candidate => exact absurd (show env.isStopped = true from hq) (hru ▸ Bool.false_ne_true)
      | content => exact absurd (show env.isStopped = true from hq) (hru ▸ Bool.false_ne_true)
  · next event q error caught _ =>
    cases hr
    refine requestFailed_quiet ?_
    cases q <;> exact hq
  · next event ir o =>
    have hq : (env.isStopped || o = .passDeadlineReached) = true := hq
    split at hr
    · cases hr
      rfl
    next hru =>
      cases hr
      rw [Bool.eq_false_iff.mpr hru, Bool.false_or] at hq
      rw [of_decide_eq_true hq]
      exact continueWith_over hp _
  · next event ir error =>
    have hq : (decide (error = .pendingRenameIntentRead) ||
      (ir || !mayRefresh run error) && failsQuietly env event error) = true := hq
    split at hr
    next hi =>
      cases hr
      refine awaitRejected_quiet ?_
      rw [throwsQuietly, decide_eq_true hi, Bool.true_or]
    next hkn =>
      rw [decide_eq_false hkn, Bool.false_or, Bool.and_eq_true] at hq
      split at hr
      next hre =>
        have hk := hq.1
        rw [← Bool.not_not (ir || !mayRefresh run error), Bool.not_or, Bool.not_not, hre] at hk
        cases hk
      next =>
        cases hr
        exact failed_quiet hq.2
  · have hs : env.isStopped = true := hq
    rw [if_pos hs] at hr
    cases hr
    rfl
  · cases hr
    exact failed_quiet hq
  · split at hr
    · cases hr
      rfl
    next hru =>
      rw [if_pos (he hru)] at hr
      cases hr
      rfl
  · cases hr
    exact awaitRejected_quiet hq
  · next event q caught l =>
    cases hr
    cases l with
    | none =>
      cases q with
      | candidate =>
        rw [bytesRead, candidateRetained, if_pos (show env.isStopped = true from hq)]
        rfl
      | preflight => cases hq
      | content => cases hq
    | some l =>
      cases q with
      | candidate => rfl
      | preflight | content =>
        have hf : ¬ maxFileSizeBytes < l := not_lt.mpr (of_decide_eq_true hq)
        rw [bytesRead.eq_def]
        dsimp only
        rw [if_neg hf]
        rfl
  · next event q caught error =>
    cases hr
    refine requestFailed_quiet ?_
    cases q <;> exact hq
  · next event q caught isF =>
    cases hr
    cases q with
    | preflight => cases hq
    | content => cases hq
    | candidate =>
      cases isF with
      | true => cases hq
      | false =>
        rw [fingerprintDerived, if_neg Bool.false_ne_true]
        show (candidateRetained env run event).2 = []
        rw [candidateRetained, if_pos (show env.isStopped = true from hq)]
        rfl
  · next event q caught error =>
    cases hr
    refine requestFailed_quiet ?_
    cases q <;> exact hq
  · next event caught =>
    cases hr
    have hq : ((env.journal.readEvent event.eventId).all
      fun p => !p.operation.isContent) = true := hq
    rw [materializePendingRename]
    split
    · exact continueWith_over hp none
    next p hpe =>
      rw [hpe, Option.all_some, Bool.not_eq_true'] at hq
      rw [hq, if_neg Bool.false_ne_true]
      exact continueWith_over hp none
  · cases hr
    exact awaitRejected_quiet hq
  · cases hr
    exact continueWith_over hp none
  · cases hr
    exact awaitRejected_quiet hq
  · cases hr
    exact continueWith_over hp _
  · cases hr
    exact continueWith_over hp none
  · cases hq
  · cases hr
    exact awaitRejected_quiet hq
  · next event ts caught =>
    rw [if_neg (of_decide_eq_true hq)] at hr
    cases hr
    exact continueWith_over hp none
  · cases hr
    exact awaitRejected_quiet hq
  · cases hq
  · cases hr
    exact continueWith_over hp none
  · cases hr
    exact continueWith_over hp none
  · cases hr
    exact continueWith_over hp none
  · cases hq
  · cases hr
    exact awaitRejected_quiet hq
  · cases hr
    exact continueWith_over hp _
  · cases hr
    exact awaitRejected_quiet hq
  · cases hr

theorem resume_suspends {p : PassPoint} {s : PassSettled} {m : PassMove}
    (hru : env.isStopped = false) (hq : isQuiet env run p s = true)
    (hw : suspends p s = true)
    (hr : resume env run p s = some m) : m.1.point ≠ none := by
  rw [suspends.eq_def] at hw
  split at hw
  · cases hr
    exact Option.some_ne_none _
  · rw [resume.eq_def] at hr
    dsimp only at hr
    rw [if_neg (Bool.eq_false_iff.mp hru)] at hr
    cases hr
    exact Option.some_ne_none _
  · next event q caught l =>
    cases hr
    rw [bytesRead.eq_def]
    cases q with
    | candidate => exact Option.some_ne_none _
    | preflight | content =>
      dsimp only
      rw [if_neg (not_lt.mpr (of_decide_eq_true hq))]
      exact Option.some_ne_none _
  · cases hw

end QueueDriver

end PersonalOs.Journal

import PersonalOs.DeviceSync.Contracts

/-!
# The plugin journal: closed contracts

The closed event states, operations, safe labels and logical records of the plugin's sync journal,
with the rows of its tables.
-/

namespace PersonalOs.Journal

open PersonalOs.DeviceSync (Locator)

/-- Exact digest, byte size and media type of one file's bytes. -/
abbrev FrozenFingerprint := DeviceSync.Fingerprint

/-! ## Closed tokens -/

/-- `JOURNAL_EVENT_STATES`. -/
inductive JournalEventState
  | queued
  | preflight
  | uploading
  | committed
  | noChange
  | waitingRetry
  | excludedPolicy
  | blockedSize
  | blockedConflict
  | deferredLifecycle
  | integrityFailed
deriving DecidableEq

/-- `JOURNAL_PENDING_EVENT_STATES`: the states that still owe work. -/
def JournalEventState.isPending : JournalEventState → Bool
  | .queued | .preflight | .uploading | .waitingRetry => true
  | _ => false

/-- `JOURNAL_COALESCABLE_EVENT_STATES`. -/
def JournalEventState.isCoalescable : JournalEventState → Bool
  | .queued | .waitingRetry => true
  | _ => false

/-- `preflight` and `uploading`: a pass has started on the event. -/
def JournalEventState.isStarted : JournalEventState → Bool
  | .preflight | .uploading => true
  | _ => false

/-- `JOURNAL_NON_RETRY_EVENT_STATES`. -/
inductive JournalNonRetryEventState
  | excludedPolicy
  | blockedSize
  | blockedConflict
  | deferredLifecycle
  | integrityFailed
deriving DecidableEq

def JournalNonRetryEventState.state : JournalNonRetryEventState → JournalEventState
  | .excludedPolicy => .excludedPolicy
  | .blockedSize => .blockedSize
  | .blockedConflict => .blockedConflict
  | .deferredLifecycle => .deferredLifecycle
  | .integrityFailed => .integrityFailed

/-- `JOURNAL_SAFE_ERROR_LABELS`. -/
inductive JournalSafeErrorLabel
  | networkOffline
  | networkTimeout
  | networkRateLimited
  | serverError
  | loginRequired
  | excludedPolicy
  | blockedSize
  | blockedConflict
  | deferredLifecycle
  | integrityFailed
  | multipartLocalContentChanged
  | reconcileRequired
  | committed
deriving DecidableEq

/-- `JOURNAL_OPERATIONS`. -/
inductive JournalOperation
  | create
  | update
  | rename
  | move
  | delete
  | restore
deriving DecidableEq

/-- The content surface; the other operations are the lifecycle surface. -/
def JournalOperation.isContent : JournalOperation → Bool
  | .create | .update => true
  | _ => false

def JournalOperation.isRebind : JournalOperation → Bool
  | .rename | .move => true
  | _ => false

/-- `LIFECYCLE_LOCAL_FILE_STATES`. -/
inductive LifecycleLocalFileState
  | active
  | renamePending
  | movePending
  | deletePending
  | restorePending
  | tombstoned
  | restored
  | reconcileRequired
deriving DecidableEq

/-- `JOURNAL_CAPTURE_ADMISSIONS`. -/
inductive JournalCaptureAdmission
  | policyAllowed
  | blockedSize
  | excludedPolicy
deriving DecidableEq

/-- `JOURNAL_RECOVERY_STATES`. -/
inductive JournalRecoveryState
  | freshJournalCreated
  | freshJournalReconcileRequired
  | verifiedGenerationLoaded
  | priorGenerationRecovered
  | emptyJournalRebuilt
deriving DecidableEq

/-- The closed reasons of a refused journal call. -/
inductive JournalStoreError
  | journalSchemaUnsupported
  | journalImageInvalid
  | journalMutationFailed
  | journalQueryFailed
  | journalGenerationWriteFailed
  | journalManifestInvalid
deriving DecidableEq

/-! ## Rows -/

/-- One `local_files` row. -/
structure LocalFile where
  localFileId : Nat
  normalizedPath : Locator
  sourceId : Option Nat
  observedFingerprint : FrozenFingerprint
  baseVersionId : Option Nat
  policyRevisionNumber : Nat
  lastCommittedFingerprint : Option FrozenFingerprint
  lastLocator : Option Locator
  openTombstoneId : Option Nat
  lifecycleState : LifecycleLocalFileState
  restorePriorPath : Option Locator
deriving DecidableEq

/-- One `journal_events` row; `rowid` is the row's place in the order of insertion. -/
structure StoredJournalEvent where
  rowid : Nat
  eventId : Nat
  localFileId : Nat
  idempotencyKey : Nat
  operation : JournalOperation
  fingerprint : FrozenFingerprint
  state : JournalEventState
  isFingerprintFrozen : Bool
  attemptCount : Nat
  nextEligibleRetryEpochMs : Option Nat
  safeError : Option JournalSafeErrorLabel
  operationId : Option String
  createdAtEpochMs : Nat
deriving DecidableEq

/-- The order of `order by created_at_epoch_ms, rowid`. -/
def StoredJournalEvent.age (event : StoredJournalEvent) : ℕ ×ₗ ℕ :=
  toLex (event.createdAtEpochMs, event.rowid)

structure LifecycleEventOperands where
  operation : JournalOperation
  sourceId : Nat
  expectedVersionId : Nat
  expectedLocator : Option Locator
  targetLocator : Option Locator
  tombstoneId : Option Nat
  policyRevision : Nat
  predecessorEventId : Option Nat
  capturedFingerprint : Option FrozenFingerprint
deriving DecidableEq

/-- One `lifecycle_event_operands` row. The operation is the event row's. -/
structure StoredOperands where
  eventId : Nat
  sourceId : Nat
  expectedVersionId : Nat
  expectedLocator : Option Locator
  targetLocator : Option Locator
  tombstoneId : Option Nat
  policyRevision : Nat
  predecessorEventId : Option Nat
  serverReceiptTombstoneId : Option Nat
deriving DecidableEq

/-- One `pending_rename_intents` row: the two ends of an observed rename chain. -/
structure PendingRenameIntent where
  localFileId : Nat
  priorPath : Locator
  currentPath : Locator
deriving DecidableEq

/-- One `pending_rename_intent_missing_file_deferrals` row. -/
structure MissingFileDeferral where
  localFileId : Nat
  eventId : Nat
  deferredAttemptCount : Nat
deriving DecidableEq

/-- One `journal_attempts` row. -/
structure JournalAttempt where
  eventId : Nat
  attemptedAtEpochMs : Nat
  outcomeLabel : JournalSafeErrorLabel
  requestCorrelationId : String
deriving DecidableEq

/-! ## Limits -/

/-- `MAX_FILE_SIZE_BYTES`: the ceiling of the single-part lane. -/
def maxFileSizeBytes : Nat := 16 * 1024 * 1024

/-- `MAX_MULTIPART_FILE_SIZE_BYTES`: the product maximum. -/
def maxMultipartFileSizeBytes : Nat := 100 * 1024 * 1024

def maxPendingEvents : Nat := 10000

def maxJournalSizeBytes : Nat := 64 * 1024 * 1024

def maxEventAttemptHistory : Nat := 10

def pendingRenameMissingFileMaxDeferrals : Nat := 40

def isRequestCorrelationId (text : String) : Bool :=
  0 < text.length && text.length ≤ 128 &&
    text.toList.all fun character => 0x20 ≤ character.toNat && character.toNat ≤ 0x7e

/-- An upload operation token: `/^[A-Za-z0-9_-]{32,128}$/`. -/
def isOperationTokenShape (text : String) : Bool :=
  32 ≤ text.length && text.length ≤ 128 &&
    text.toList.all fun character => character.isAlphanum || character == '_' || character == '-'

end PersonalOs.Journal

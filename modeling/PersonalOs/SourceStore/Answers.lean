import PersonalOs.Basis.Transactions
import PersonalOs.DeviceSync.EventStore
import PersonalOs.SourceStore.Locks
import PersonalOs.SourceStore.Schema

/-!
# What the stores answer, and how they retry

The results and errors of the publication, lifecycle and conflict stores, of the manifest runs
and of the device events, the retry policy they share and the environment they run in.

What the modelled transactions never write is a parameter: the workspace, device and
ownership rows behind the trust checks, whether a policy can be loaded, and the hashes.
-/

namespace PersonalOs.SourceStore

open Transactions

/-! ## Publication -/

inductive PublicationOutcome
  | published
  | noChange
deriving DecidableEq

structure SourceVersionPublicationResult where
  sourceId : SourceId
  sourceVersionId : SourceVersionId
  contentVersion : Nat
  eventId : EventId
  eventSequence : Nat
  contentDigest : String
  outcome : PublicationOutcome
deriving DecidableEq

/-- The error codes of a publication with their safe details. -/
inductive PublicationError
  | inputInvalid
  | policyDenied
  | sourceNotFound
  | sourceAlreadyExists
  | sourceStateInvalid (sourceState : SyncState)
  | versionConflict (currentVersionId : SourceVersionId) (contentVersion : Nat)
  | idempotencyMismatch
  | eventIdentityMismatch
  | contentObjectConflict
  | locatorConflict
  | concurrencyInvariantFailed
  | concurrencyBusy
  | commitOutcomeUnknown
  | internalError
deriving DecidableEq

/-- `ErrorDefinition.is_retryable`. -/
def PublicationError.isRetryable : PublicationError → Bool
  | .concurrencyBusy | .commitOutcomeUnknown => true
  | _ => false

/-! ## Lifecycle -/

inductive LifecycleState
  | active
  | deleted
deriving DecidableEq

structure SourceLifecycleCommitResult where
  sourceId : SourceId
  sourceVersionId : SourceVersionId
  eventId : EventId
  eventSequence : Nat
  state : LifecycleState
  tombstoneId : Option SourceTombstoneId
  resultingLocator : Option NormalizedLocator
deriving DecidableEq

inductive SourceLifecycleErrorCode
  | inputInvalid
  | locatorMissing
  | locatorConflict
  | tombstoneNotFound
  | tombstoneClosed
  | versionConflict
  | commitOutcomeUnknown
deriving DecidableEq

/-- What a lifecycle call raises: an error of its own domain, an application error of the
retry policy or the policy guard, or the bare driver failure of its rejection audit. -/
inductive LifecycleFailure
  | lifecycle (code : SourceLifecycleErrorCode)
  | policyUnavailable
  | concurrencyBusy
  | commitOutcomeUnknown
  | internalError
  | driverFailure
deriving DecidableEq

def LifecycleFailure.isRetryable : LifecycleFailure → Bool
  | .lifecycle .commitOutcomeUnknown | .concurrencyBusy | .commitOutcomeUnknown => true
  | _ => false

/-! ## Conflict -/

inductive SourceConflictError
  | inputInvalid
  | notFound
  | stateInvalid
  | idempotencyMismatch
  | dependencyUnavailable
  | commitOutcomeUnknown
  | internalError
deriving DecidableEq

inductive ConflictResolutionOutcome
  | resolved
  | staleSuccessor
deriving DecidableEq

structure ConflictResolutionResult where
  kind : ConflictResolutionOutcome
  conflictId : ConflictId
  resolutionEventId : EventId
  resolutionKind : ConflictResolutionKind
  resultingVersionId : Option SourceVersionId
  successor : Option SourceConflict
deriving DecidableEq

/-! ## Manifest runs -/

inductive ManifestError
  | notFound
  | stateInvalid
  | expired
  | policyAdvanced
  | pageInvalid
  | pageReplayMismatch
  | digestMismatch
  | dependencyUnavailable
  | internalError
deriving DecidableEq

structure ManifestPageReceipt where
  manifestRunId : ManifestRunId
  pageNumber : Nat
  acceptedEntryCount : Nat
  nextPageNumber : Nat
deriving DecidableEq

/-- One action with the checkpoint locator a download is delivered with. -/
structure DeliveredAction where
  action : ManifestAction
  checkpointLocator : Option NormalizedLocator
deriving DecidableEq

structure ManifestActionPage where
  manifestRunId : ManifestRunId
  actions : List DeliveredAction
  hasMore : Bool
deriving DecidableEq

structure DeviceCursorReceipt where
  acknowledgedSequence : Nat
  deliveredThroughSequence : Nat
deriving DecidableEq

/-! ## Device events -/

/-- The failures of a pull and of an acknowledgement. -/
inductive DeviceEventError
  | closed (code : DeviceSync.DeviceSyncErrorCode)
  | dependencyUnavailable
  | internalError
deriving DecidableEq

/-! ## Answers -/

inductive StoreAnswer
  | publication (result : Except PublicationError SourceVersionPublicationResult)
  | lifecycle (result : Except LifecycleFailure SourceLifecycleCommitResult)
  | capture (result : Except SourceConflictError SourceConflict)
  | resolution (result : Except SourceConflictError ConflictResolutionResult)
  | manifest (result : Except ManifestError ManifestRun)
  | page (result : Except ManifestError ManifestPageReceipt)
  | actions (result : Except ManifestError ManifestActionPage)
  | completion (result : Except ManifestError DeviceCursorReceipt)
  | pull (result : Except DeviceEventError DeviceSync.DeviceEventPage)
  | acknowledgement (result : Except DeviceEventError DeviceCursorReceipt)

/-- A lifecycle command with the device that sends it. -/
structure LifecycleRequest where
  command : SourceLifecycleCommand
  device : LifecycleDeviceContext
deriving DecidableEq

/-- A client program of the stores. A note names the lifecycle request whose committed event
the client has looked for in vain. -/
abbrev StoreProgram := Program Db LockName LifecycleRequest StoreAnswer

/-- The subject a publication's policy is evaluated on. -/
structure PolicySubject where
  workspaceId : WorkspaceId
  sourceId : SourceId
  normalizedLocator : Option NormalizedLocator
  sourceType : Option String
  mediaType : String
  sizeBytes : Nat
deriving DecidableEq

/-- The subject a manifest's bound policy revision is evaluated on. -/
structure ManifestSubject where
  workspaceId : WorkspaceId
  sourceId : Option SourceId
  normalizedLocator : Option NormalizedLocator
  sourceType : Option String
  mediaType : Option String
  sizeBytes : Option Nat
deriving DecidableEq

/-- What the modelled transactions read and never write. -/
structure Environment where
  word : LockWord
  publicationDigest : RequestEnvelope → RequestFingerprint
  lifecycleDigest : SourceLifecycleCommand → RequestFingerprint
  captureDigest : CaptureConflictCommand → RequestFingerprint
  resolutionDigest : ResolveConflictCommand → RequestFingerprint
  workspaceActive : WorkspaceId → Bool
  /-- The workspace's owner for a user, an active device for a device, true for the system. -/
  actorValid : WorkspaceId → SourceActor → Bool
  deviceActive : WorkspaceId → DeviceId → Bool
  /-- The signed policy can be loaded and verified. -/
  policyLoaded : WorkspaceId → Bool
  /-- The verdict of a published policy revision, by its number. -/
  manifestPolicy : Nat → ManifestSubject → Bool
  /-- `compute_manifest_final_digest`. -/
  manifestFinalDigest : List ManifestPage → String

/-- `fingerprint_source_version_command`. -/
def Environment.fingerprint (env : Environment) (command : SourceVersionCommand) :
    RequestFingerprint :=
  env.publicationDigest (requestEnvelope command)

/-! ## Retry -/

/-- `DatabaseRetryPolicy.maximum_attempts`. -/
def maximumAttempts : Nat := 3

/-- `DatabaseRetryPolicy.run`. An attempt is given the number of attempts left after it and
what follows a failure of one of its transactions. After an unavailable server `recover` looks
for the committed outcome and goes on with the next attempt when it proves there is none. -/
def databaseRetry (attempt : Nat → (Failure → StoreProgram) → StoreProgram)
    (recover : Option (StoreProgram → StoreProgram)) (busy outcomeUnknown : StoreProgram) :
    Nat → StoreProgram
  | 0 => .halt
  | remaining + 1 => attempt remaining fun failure =>
    match failure, recover with
    | .contention, _ =>
      if remaining = 0 then busy
      else databaseRetry attempt recover busy outcomeUnknown remaining
    | .unavailable, some recover =>
      recover (if remaining = 0 then outcomeUnknown
        else databaseRetry attempt (some recover) busy outcomeUnknown remaining)
    | _, _ => outcomeUnknown

/-- A rejection's standalone audit transaction. Its failure ends the call where it stands. -/
def writeRejectionAudit (audit : RejectionAudit) (onFailure : Failure → StoreProgram)
    (next : StoreProgram) : StoreProgram :=
  .begin true onFailure <|
  .finish (fun db => some (db.insertRejectionAudit audit)) (fun _ => next) (fun _ => .halt)

end PersonalOs.SourceStore

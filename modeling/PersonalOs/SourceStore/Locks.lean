import PersonalOs.Basis.LockOrder
import PersonalOs.SourceStore.Commands

/-!
# The locks of the canonical stores

Every commit of the three canonical stores takes its locks one after another and keeps them to the
end of its transaction. This module names them and gives, for each transaction, the list in the
order the code acquires them. The hash is a parameter: `word` stands for the signed first SHA-256
word of its material.
-/

namespace PersonalOs.SourceStore

/-! ## Lock names -/

/-- The advisory-lock families. -/
inductive LockNamespace
  | uploadOperation
  | idempotency
  | source
  | locator
deriving DecidableEq

/-- What a commit waits for. Rows are named by what identifies them; an open locator row by
its workspace and path, which at most one open row has. -/
inductive LockName
  | advisory (lockNamespace : LockNamespace) (derivedKey : Int)
  | policyStateRow (workspaceId : WorkspaceId)
  | sourceRow (sourceId : SourceId)
  | versionRow (sourceId : SourceId) (sourceVersionId : SourceVersionId)
  | contentObjectRow (contentObjectId : ContentObjectId)
  | openLocatorRow (workspaceId : WorkspaceId) (normalizedLocator : NormalizedLocator)
  | tombstoneRow (tombstoneId : SourceTombstoneId)
  | conflictRow (conflictId : ConflictId)
  | manifestRunRow (manifestRunId : ManifestRunId)
  | deviceCursorRow (workspaceId : WorkspaceId) (deviceId : DeviceId)
deriving DecidableEq

/-- `signed_first_sha256_word`, the hash of every advisory-lock family. -/
abbrev LockWord := List UInt8 → Int

/-- `str.encode("utf-8")`, which is `encode("ascii")` on ASCII text. -/
def encodeUtf8 (text : String) : List UInt8 := text.toList.flatMap String.utf8EncodeChar

/-- `idempotency_lock_statement` and `conflict_idempotency_lock_statement`. -/
def idempotencyLock (word : LockWord) (workspaceId : WorkspaceId) (key : IdempotencyKey) :
    LockName :=
  .advisory .idempotency (word (Uuid.bytes workspaceId ++ [0] ++ encodeUtf8 key))

/-- `source_lock_statement`. -/
def sourceLock (word : LockWord) (sourceId : SourceId) : LockName :=
  .advisory .source (word (Uuid.bytes sourceId))

/-- `locator_advisory_lock_statement`: the material is the text alone. -/
def locatorLock (word : LockWord) (locator : NormalizedLocator) : LockName :=
  .advisory .locator (word (encodeUtf8 locator))

/-- The identity a small-file publication is fenced by. -/
structure UploadOperationIdentity where
  workspaceId : WorkspaceId
  deviceId : DeviceId
  eventId : EventId
  idempotencyKey : IdempotencyKey
deriving DecidableEq

/-- `upload_operation_lock_statement`. -/
def uploadOperationLock (word : LockWord) (operation : UploadOperationIdentity) : LockName :=
  .advisory .uploadOperation (word
    (Uuid.bytes operation.workspaceId ++ [0] ++ Uuid.bytes operation.deviceId ++ [0] ++
      Uuid.bytes operation.eventId ++ [0] ++ encodeUtf8 operation.idempotencyKey))

/-! ## The transactions -/

/-- `_lock_locator_keys`: the active locator and the target of a rename, move or restore,
in text order. -/
def lockedLocators (command : SourceLifecycleCommand)
    (activeLocator : Option NormalizedLocator) : List NormalizedLocator :=
  let target :=
    match command.operation with
    | .rename | .move | .restore => command.targetLocator
    | .delete => none
  let locators := activeLocator.toList ++
    (target.filter fun locator => activeLocator != some locator).toList
  locators.insertionSort (· ≤ ·)

/-- What the statements of a lifecycle commit find on their way to its locks. -/
structure LifecycleReads where
  /-- The open locator joined to the locked source row. -/
  activeLocator : Option NormalizedLocator
  /-- Whether the tombstone of a restore exists. -/
  tombstoneFound : Bool
  /-- Whether an open row, of no active foreign source, stands at the target. -/
  targetRowFound : Bool
deriving DecidableEq

/-- A commit of one of the three stores, with the row identities its reads found. -/
inductive CommitTransaction
  | create (command : CreateSourceVersion) (boundOperation : Option UploadOperationIdentity)
  | update (command : UpdateSourceVersion) (boundOperation : Option UploadOperationIdentity)
      (currentVersion : Option (SourceVersionId × ContentObjectId))
  | lifecycle (command : SourceLifecycleCommand) (device : LifecycleDeviceContext)
      (reads : LifecycleReads)
  | capture (command : CaptureConflictCommand)
  | resolve (command : ResolveConflictCommand) (workspaceId : WorkspaceId)
      (sourceId : Option SourceId)
deriving DecidableEq

/-- The common prefix of `_run_locked_transition`. -/
def publicationPrefix (word : LockWord) (boundOperation : Option UploadOperationIdentity)
    (workspaceId : WorkspaceId) (key : IdempotencyKey) (sourceId : SourceId) : List LockName :=
  (boundOperation.map (uploadOperationLock word)).toList ++
    [idempotencyLock word workspaceId key, .policyStateRow workspaceId, sourceLock word sourceId]

def tombstoneLocks (command : SourceLifecycleCommand) (reads : LifecycleReads) :
    List LockName :=
  match command.operation, command.tombstoneId, reads.tombstoneFound with
  | .restore, some tombstoneId, true => [.tombstoneRow tombstoneId]
  | _, _, _ => []

/-- The open locator rows a lifecycle commit locks behind the policy row: the target's,
when one is found, then the source's own, which a restore has none of to close. -/
def openLocatorRows (workspaceId : WorkspaceId) (command : SourceLifecycleCommand)
    (reads : LifecycleReads) : List LockName :=
  (match reads.targetRowFound, command.targetLocator with
    | true, some target => [.openLocatorRow workspaceId target]
    | _, _ => []) ++
  (match command.operation, reads.activeLocator with
    | .restore, _ | _, none => []
    | _, some active => [.openLocatorRow workspaceId active])

/-- The locks of one commit, in the order the code acquires them. -/
def commitLocks (word : LockWord) : CommitTransaction → List LockName
  | .create command boundOperation =>
    publicationPrefix word boundOperation command.workspaceId command.idempotencyKey
      command.sourceId
  | .update command boundOperation currentVersion =>
    publicationPrefix word boundOperation command.workspaceId command.idempotencyKey
        command.sourceId ++
      .sourceRow command.sourceId ::
        (match currentVersion with
          | none => []
          | some (version, object) =>
            [.versionRow command.sourceId version, .contentObjectRow object])
  | .lifecycle command device reads =>
    [idempotencyLock word device.workspaceId command.idempotencyKey,
        sourceLock word command.sourceId, .sourceRow command.sourceId] ++
      (lockedLocators command reads.activeLocator).map (locatorLock word) ++
      tombstoneLocks command reads ++
      .policyStateRow device.workspaceId :: openLocatorRows device.workspaceId command reads
  | .capture command =>
    idempotencyLock word command.workspaceId command.idempotencyKey ::
      (command.sourceId.map (sourceLock word)).toList
  | .resolve command workspaceId sourceId =>
    [idempotencyLock word workspaceId command.idempotencyKey, .conflictRow command.conflictId] ++
      (match sourceId with
        | none => []
        | some sourceId => [sourceLock word sourceId, .sourceRow sourceId])

end PersonalOs.SourceStore

import PersonalOs.SourceStore.Publication

/-!
# The lifecycle store

`PostgresqlSourceLifecycleStore`: the lock-free replay lookup, the precondition graph, the
four transitions and the commit entry with its retry policy and rejection audit.
-/

namespace PersonalOs.SourceStore

open Transactions

/-! ## Replay -/

def eventTypeByOperation : LifecycleOperation → EventType
  | .rename => .rename
  | .move => .move
  | .delete => .delete
  | .restore => .restore

/-- `LifecycleReplayLookupRow`: the event joined with the locator it opened and the tombstone
it created. -/
structure LifecycleReplayLookupRow where
  event : SyncEvent
  resultingLocator : Option NormalizedLocator
  tombstoneId : Option SourceTombstoneId
deriving DecidableEq

def Db.openedLocator (db : Db) (event : SyncEvent) : Option SourceLocator :=
  db.locators.find? fun l =>
    l.openedEventId = event.eventId ∧ l.workspaceId = event.workspaceId ∧
      l.sourceId = event.sourceId

def Db.createdTombstone (db : Db) (event : SyncEvent) : Option SourceTombstone :=
  db.tombstones.find? fun t =>
    t.deleteEventId = event.eventId ∧ t.workspaceId = event.workspaceId ∧
      t.sourceId = event.sourceId

/-- The join of `sync_event_lookup_by_key_statement`. -/
def Db.lifecycleReplayRow (db : Db) (event : SyncEvent) : LifecycleReplayLookupRow :=
  ⟨event, (db.openedLocator event).map SourceLocator.normalizedLocator,
    (db.createdTombstone event).map SourceTombstone.sourceTombstoneId⟩

/-- `_hydrate_replay_result`. -/
def hydrateLifecycleReplay (row : LifecycleReplayLookupRow) (command : SourceLifecycleCommand) :
    Except SourceLifecycleErrorCode SourceLifecycleCommitResult :=
  let result (version : SourceVersionId) (state : LifecycleState)
      (tombstoneId : Option SourceTombstoneId) (resultingLocator : Option NormalizedLocator) :
      SourceLifecycleCommitResult :=
    { sourceId := command.sourceId
      sourceVersionId := version
      eventId := row.event.eventId
      eventSequence := row.event.eventSequence
      state, tombstoneId, resultingLocator }
  match row.event.eventType, row.event.committedVersionId with
  | .delete, some version =>
    match row.tombstoneId with
    | some tombstoneId => .ok (result version .deleted (some tombstoneId) none)
    | none => .error .commitOutcomeUnknown
  | .rename, some version | .move, some version | .restore, some version =>
    match row.resultingLocator with
    | some locator => .ok (result version .active none (some locator))
    | none => .error .commitOutcomeUnknown
  | _, _ => .error .commitOutcomeUnknown

/-- The lookup of `_resolve_committed_once`, behind its trust check. -/
def resolveCommittedLifecycle (env : Environment) (request : LifecycleRequest) (db : Db) :
    Except SourceLifecycleErrorCode (Option SourceLifecycleCommitResult) :=
  let command := request.command
  match db.eventByKey request.device.workspaceId command.idempotencyKey with
  | none => .ok none
  | some event =>
    if event.eventSequence < 1 then .error .commitOutcomeUnknown
    else if event.sourceId ≠ command.sourceId then .error .inputInvalid
    else if event.requestFingerprint ≠ env.lifecycleDigest command then .error .locatorConflict
    else if event.eventId ≠ command.eventId then .error .inputInvalid
    else (hydrateLifecycleReplay (db.lifecycleReplayRow event) command).map some

/-! ## Preconditions -/

def classifyStateMismatch (actualState : SyncState) (operation : LifecycleOperation) :
    Option SourceLifecycleErrorCode :=
  match actualState, operation with
  | .active, .restore => some .tombstoneNotFound
  | .active, _ => none
  | .deleted, .restore => none
  | _, _ => some .locatorMissing

def classifyLocatorConflict (expected actual : Option NormalizedLocator) :
    Option SourceLifecycleErrorCode :=
  match expected, actual with
  | none, _ => none
  | some _, none => some .locatorMissing
  | some expected, some actual => if actual = expected then none else some .locatorConflict

/-- The part of a path before its last slash, empty when it has none. -/
def parentLocator (locator : NormalizedLocator) : String :=
  if '/' ∈ locator.toList then
    String.ofList ((locator.toList.reverse.dropWhile (· ≠ '/')).drop 1).reverse
  else ""

/-- `classify_classification`: a rename keeps the parent, a move changes it. -/
def classifyClassification (operation : LifecycleOperation)
    (expectedLocator targetLocator : NormalizedLocator) : Option SourceLifecycleErrorCode :=
  let sameParent := parentLocator expectedLocator = parentLocator targetLocator
  if operation = .rename ∧ ¬sameParent then some .locatorConflict
  else if operation = .move ∧ sameParent then some .locatorConflict
  else none

/-- What `_lock_source_row` returns for an existing source. -/
structure LockedLifecycleSource where
  syncState : SyncState
  currentVersionId : Option SourceVersionId
  activeLocator : Option NormalizedLocator
deriving DecidableEq

/-- The join of `_lock_source_row`, by the source id alone. -/
def Db.lockedLifecycleSource (db : Db) (sourceId : SourceId) : Option LockedLifecycleSource :=
  (db.source sourceId).map fun s =>
    ⟨s.syncState, s.currentVersionId, (db.openLocator sourceId).map SourceLocator.normalizedLocator⟩

/-- The restore part of `_validate_preconditions`, with `classify_tombstone_conflict`. -/
def validateTombstone (command : SourceLifecycleCommand) (currentVersionId : SourceVersionId)
    (tombstone : Option SourceTombstone) : Option SourceLifecycleErrorCode :=
  match tombstone with
  | none => some .tombstoneNotFound
  | some tombstone =>
    if tombstone.restoreEventId.isSome then some .tombstoneClosed
    else if tombstone.sourceId ≠ command.sourceId then some .tombstoneNotFound
    else if tombstone.retainedVersionId ≠ currentVersionId then some .versionConflict
    else none

/-- `_validate_preconditions`: the current version of a source that passes, or the error. -/
def validatePreconditions (command : SourceLifecycleCommand)
    (source : Option LockedLifecycleSource) (tombstone : Option SourceTombstone) :
    Except SourceLifecycleErrorCode SourceVersionId :=
  match source with
  | none => .error .locatorMissing
  | some source =>
    match classifyStateMismatch source.syncState command.operation with
    | some error => .error error
    | none =>
      match source.currentVersionId with
      -- a missing pointer compares as the nil identity, which no command names
      | none => .error .versionConflict
      | some current =>
        if current ≠ command.expectedVersionId then .error .versionConflict
        else
          let error :=
            match command.operation, command.targetLocator with
            | .rename, some target | .move, some target =>
              (classifyLocatorConflict command.expectedLocator source.activeLocator).or
                (classifyClassification command.operation
                  (command.expectedLocator.getD "") target)
            | .rename, none | .move, none => some .inputInvalid
            | .delete, _ => classifyLocatorConflict command.expectedLocator source.activeLocator
            | .restore, _ => validateTombstone command current tombstone
          match error with
          | some error => .error error
          | none => .ok current

/-! ## Writes -/

/-- `LifecycleCommitIdentities`. -/
structure LifecycleIdentities where
  sourceLocatorId : SourceLocatorId
  tombstoneId : SourceTombstoneId
deriving DecidableEq

abbrev LifecycleWrites :=
  Except (Refusal SourceLifecycleErrorCode) (Db × SourceLifecycleCommitResult)

/-- `_insert_lifecycle_event`. -/
def lifecycleEvent (env : Environment) (request : LifecycleRequest)
    (currentVersionId : SourceVersionId) (eventSequence : Nat) : SyncEvent where
  eventId := request.command.eventId
  workspaceId := request.device.workspaceId
  eventSequence := eventSequence
  sourceId := request.command.sourceId
  deviceId := some request.device.deviceId
  committedVersionId := some currentVersionId
  baseVersionId := some request.command.expectedVersionId
  idempotencyKey := request.command.idempotencyKey
  requestFingerprint := env.lifecycleDigest request.command
  eventType := eventTypeByOperation request.command.operation

/-- `_close_existing_locator`: close the source's open row at the path, if it is there. -/
def closeExistingLocator (db : Db) (command : SourceLifecycleCommand)
    (activeLocator : NormalizedLocator) (closedSequence : Nat) : Db :=
  match db.locators.find? fun l => l.sourceId = command.sourceId ∧
      l.normalizedLocator = activeLocator ∧ l.closure = none with
  | none => db
  | some row => { db with locators := db.locators.map fun l =>
      if l.sourceLocatorId = row.sourceLocatorId ∧ l.closure = none then
        { l with closure := some ⟨command.eventId, closedSequence⟩ }
      else l }

/-- `locator_open_insert_statement`. -/
def openedLocatorRow (request : LifecycleRequest) (identities : LifecycleIdentities)
    (locator : NormalizedLocator) (openedSequence : Nat) : SourceLocator where
  sourceLocatorId := identities.sourceLocatorId
  workspaceId := request.device.workspaceId
  sourceId := request.command.sourceId
  normalizedLocator := locator
  openedEventId := request.command.eventId
  openedSequence := openedSequence
  closure := none

def lifecycleResult (request : LifecycleRequest) (currentVersionId : SourceVersionId)
    (eventSequence : Nat) (state : LifecycleState) (tombstoneId : Option SourceTombstoneId)
    (resultingLocator : Option NormalizedLocator) : SourceLifecycleCommitResult where
  sourceId := request.command.sourceId
  sourceVersionId := currentVersionId
  eventId := request.command.eventId
  eventSequence := eventSequence
  state := state
  tombstoneId := tombstoneId
  resultingLocator := resultingLocator

/-- `_commit_rename_or_move`. -/
def renameOrMoveWrites (env : Environment) (request : LifecycleRequest)
    (identities : LifecycleIdentities) (currentVersionId : SourceVersionId)
    (activeLocator : Option NormalizedLocator) (eventSequence : Nat) (db : Db) :
    LifecycleWrites :=
  match request.command.targetLocator with
  | none => .error (.rejected .inputInvalid)
  | some target => do
    let db ← db.insertEvent (lifecycleEvent env request currentVersionId eventSequence)
    let db := match activeLocator with
      | none => db
      | some active => closeExistingLocator db request.command active eventSequence
    let db ← db.insertLocator (openedLocatorRow request identities target eventSequence)
    return (db, lifecycleResult request currentVersionId eventSequence .active none (some target))

/-- `_commit_delete`. -/
def deleteWrites (env : Environment) (request : LifecycleRequest)
    (identities : LifecycleIdentities) (currentVersionId : SourceVersionId)
    (activeLocator : Option NormalizedLocator) (eventSequence : Nat) (db : Db) :
    LifecycleWrites :=
  match request.command.expectedLocator with
  | none => .error (.rejected .inputInvalid)
  | some expected => do
    let db ← db.insertEvent (lifecycleEvent env request currentVersionId eventSequence)
    let db := closeExistingLocator db request.command (activeLocator.getD expected) eventSequence
    let sources ← guardedUpdate db.sources
      (fun s => s.sourceId = request.command.sourceId ∧ s.syncState = .active)
      (fun s => { s with syncState := .deleted })
      .locatorMissing
    let db ← { db with sources }.insertTombstone {
      sourceTombstoneId := identities.tombstoneId
      workspaceId := request.device.workspaceId
      sourceId := request.command.sourceId
      deleteEventId := request.command.eventId
      retainedVersionId := currentVersionId
      retainedLocator := activeLocator.getD expected
      restoreEventId := none }
    return (db, lifecycleResult request currentVersionId eventSequence .deleted
      (some identities.tombstoneId) none)

/-- `_commit_restore`. -/
def restoreWrites (env : Environment) (request : LifecycleRequest)
    (identities : LifecycleIdentities) (currentVersionId : SourceVersionId)
    (eventSequence : Nat) (db : Db) : LifecycleWrites :=
  match request.command.targetLocator, request.command.tombstoneId with
  | some target, some tombstoneId => do
    let db ← db.insertEvent (lifecycleEvent env request currentVersionId eventSequence)
    let tombstones ← guardedUpdate db.tombstones
      (fun t => t.sourceTombstoneId = tombstoneId ∧ t.restoreEventId = none)
      (fun t => { t with restoreEventId := some request.command.eventId })
      .tombstoneClosed
    let sources ← guardedUpdate db.sources
      (fun s => s.sourceId = request.command.sourceId ∧ s.syncState = .deleted)
      (fun s => { s with syncState := .active })
      .locatorMissing
    let db ← { db with tombstones, sources }.insertLocator
      (openedLocatorRow request identities target eventSequence)
    return (db, lifecycleResult request currentVersionId eventSequence .active none (some target))
  | _, _ => .error (.rejected .inputInvalid)

/-- `_commit_transition`. -/
def lifecycleWrites (env : Environment) (request : LifecycleRequest)
    (identities : LifecycleIdentities) (currentVersionId : SourceVersionId)
    (activeLocator : Option NormalizedLocator) (eventSequence : Nat) (db : Db) :
    LifecycleWrites :=
  match request.command.operation with
  | .delete => deleteWrites env request identities currentVersionId activeLocator eventSequence db
  | .restore => restoreWrites env request identities currentVersionId eventSequence db
  | .rename | .move =>
    renameOrMoveWrites env request identities currentVersionId activeLocator eventSequence db

/-! ## The transaction -/

/-- One service invocation; every attempt allocates its own identities. -/
structure LifecycleCall where
  request : LifecycleRequest
  identities : Nat → LifecycleIdentities

def answerLifecycle (result : Except LifecycleFailure SourceLifecycleCommitResult) :
    StoreProgram :=
  .done (.lifecycle result)

/-- `AUDIT_ACTIONS_BY_OPERATION` with the suffix of a rejection. -/
def rejectionAuditAction : LifecycleOperation → String
  | .rename => "source.locator_renamed.rejected"
  | .move => "source.locator_moved.rejected"
  | .delete => "source.deleted.rejected"
  | .restore => "source.restored.rejected"

/-- `_insert_rejection_audit`. -/
def lifecycleRejectionAudit (request : LifecycleRequest) : RejectionAudit where
  workspaceId := request.device.workspaceId
  action := rejectionAuditAction request.command.operation
  targetId := request.command.sourceId
  reasonCode := some "idempotency_mismatch"

/-- What `commit` does with an error its attempts raise: a locator conflict is audited in a
transaction of its own, outside the retry policy. -/
def raiseLifecycle (request : LifecycleRequest) (code : SourceLifecycleErrorCode) :
    StoreProgram :=
  if code = .locatorConflict then
    writeRejectionAudit (lifecycleRejectionAudit request)
      (fun _ => answerLifecycle (.error .driverFailure))
      (answerLifecycle (.error (.lifecycle code)))
  else answerLifecycle (.error (.lifecycle code))

/-- `_workspace_is_trusted`. -/
def Environment.trusts (env : Environment) (device : LifecycleDeviceContext) : Bool :=
  env.workspaceActive device.workspaceId && env.deviceActive device.workspaceId device.deviceId

/-- The request is noted when the lookup of its committed event finds nothing. -/
def missedLookup (env : Environment) (request : LifecycleRequest) (db : Db) :
    List LifecycleRequest :=
  match resolveCommittedLifecycle env request db with
  | .ok none => [request]
  | _ => []

/-- `resolve_committed` with its own retries, and what its caller does with a result, an error
and an absence. -/
def resolveCommitted (env : Environment) (request : LifecycleRequest)
    (notes : Db → List LifecycleRequest) (found : SourceLifecycleCommitResult → StoreProgram)
    (raised : SourceLifecycleErrorCode → StoreProgram) (absent : StoreProgram) : StoreProgram :=
  databaseRetry
    (fun _ onFailure =>
      .begin false onFailure <|
      if !env.trusts request.device then .rollback (raised .inputInvalid)
      else .note notes fun db =>
      match resolveCommittedLifecycle env request db with
      | .error code => .rollback (raised code)
      | .ok (some result) => .rollback (found result)
      | .ok none => .rollback absent)
    none
    (answerLifecycle (.error .concurrencyBusy))
    (answerLifecycle (.error .commitOutcomeUnknown)) maximumAttempts

/-- The locks of `_lock_locator_keys`, in order. -/
def lockAll (locks : List LockName) (next : StoreProgram) : StoreProgram :=
  locks.foldr .lock next

def maybeLockTombstone (request : LifecycleRequest)
    (next : Option SourceTombstone → StoreProgram) : StoreProgram :=
  match request.command.operation, request.command.tombstoneId with
  | .restore, some tombstoneId =>
    .selectForUpdate (fun db => db.tombstone request.device.workspaceId tombstoneId)
      (fun _ => .tombstoneRow tombstoneId) (next none) fun tombstone => next (some tombstone)
  | _, _ => next none

/-- The row `_lock_target_locator_row` selects: the open locator at the path, and whether its
source is active. -/
def Db.targetHolder (db : Db) (workspaceId : WorkspaceId) (target : NormalizedLocator) :
    Option (SourceLocator × Bool) :=
  (db.openLocatorAt workspaceId target).map fun l =>
    (l, (db.source l.sourceId).any fun s => s.syncState = .active)

def lockTargetLocatorRow (request : LifecycleRequest) (conflict next : StoreProgram) :
    StoreProgram :=
  match request.command.operation, request.command.targetLocator with
  | .delete, _ | _, none => next
  | _, some target =>
    .selectForUpdate (fun db => db.targetHolder request.device.workspaceId target)
      (fun _ => .openLocatorRow request.device.workspaceId target) next fun holder =>
    if holder.2 ∧ holder.1.sourceId ≠ request.command.sourceId then conflict else next

/-- The open row `_close_existing_locator` locks. -/
def lockClosedLocatorRow (request : LifecycleRequest) (activeLocator : Option NormalizedLocator)
    (next : StoreProgram) : StoreProgram :=
  match request.command.operation, activeLocator with
  | .restore, _ | _, none => next
  | _, some active => .lock (.openLocatorRow request.device.workspaceId active) next

/-- The commit transaction of `_commit_lifecycle_once` behind its preconditions. -/
def commitLifecycleTransition (env : Environment) (call : LifecycleCall) (remaining : Nat)
    (currentVersionId : SourceVersionId) (activeLocator : Option NormalizedLocator) :
    StoreProgram :=
  let request := call.request
  .lock (.policyStateRow request.device.workspaceId) <|
  if !env.policyLoaded request.device.workspaceId then
    .rollback (answerLifecycle (.error .policyUnavailable))
  else .read fun db =>
  -- the policy evidence of the source in the credential's workspace
  if (db.sourceInWorkspace request.device.workspaceId request.command.sourceId).isNone then
    .rollback (raiseLifecycle request .inputInvalid)
  else
    lockTargetLocatorRow request (.rollback (raiseLifecycle request .locatorConflict)) <|
    .draw fun eventSequence =>
    lockClosedLocatorRow request activeLocator <|
    .commitOrAbort
      (lifecycleWrites env request (call.identities remaining) currentVersionId activeLocator
        eventSequence)
      (fun result => answerLifecycle (.ok result))
      (fun refusal =>
        match refusal with
        | .constraint => answerLifecycle (.error .internalError)
        | .rejected code => raiseLifecycle request code)

def commitLifecycleOnce (env : Environment) (call : LifecycleCall) (remaining : Nat)
    (onFailure : Failure → StoreProgram) : StoreProgram :=
  let request := call.request
  resolveCommitted env request (missedLookup env request)
    (fun result => answerLifecycle (.ok result)) (raiseLifecycle request) <|
  .begin false onFailure <|
  if !env.trusts request.device then .rollback (raiseLifecycle request .inputInvalid)
  else
    .lock (idempotencyLock env.word request.device.workspaceId request.command.idempotencyKey) <|
    .lock (sourceLock env.word request.command.sourceId) <|
    let locked (source : Option LockedLifecycleSource) : StoreProgram :=
      let activeLocator := source.bind LockedLifecycleSource.activeLocator
      lockAll ((lockedLocators request.command activeLocator).map (locatorLock env.word)) <|
      maybeLockTombstone request fun tombstone =>
      match validatePreconditions request.command source tombstone with
      | .error code => .rollback (raiseLifecycle request code)
      | .ok currentVersionId =>
        commitLifecycleTransition env call remaining currentVersionId activeLocator
    .selectForUpdate (fun db => db.lockedLifecycleSource request.command.sourceId)
      (fun _ => .sourceRow request.command.sourceId) (locked none) fun source =>
    locked (some source)

/-- `commit`. -/
def commitLifecycle (env : Environment) (call : LifecycleCall) : StoreProgram :=
  databaseRetry (commitLifecycleOnce env call)
    -- the recovery lookup passes on application errors and hides the domain's own
    (some fun absent => resolveCommitted env call.request (fun _ => [])
      (fun result => answerLifecycle (.ok result))
      (fun _ => answerLifecycle (.error .commitOutcomeUnknown)) absent)
    (answerLifecycle (.error .concurrencyBusy))
    (answerLifecycle (.error .commitOutcomeUnknown)) maximumAttempts

end PersonalOs.SourceStore

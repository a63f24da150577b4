import PersonalOs.SourceStore.Answers

/-!
# The publication store

`PostgresqlSourcePublicationStore`: the replay lookup, the create and update transitions and
the locked transaction around them. Each check of a transition is evaluated where its
statement stands; the writes, with the guards they carry, are evaluated at commit.
-/

namespace PersonalOs.SourceStore

open Transactions

/-! ## Replay -/

def classifyReplay (eventType : EventType) (baseVersionId committedId : Option SourceVersionId) :
    Option PublicationOutcome :=
  match eventType, baseVersionId, committedId with
  | .create, none, some _ => some .published
  | .update, some base, some committed =>
    if committed = base then some .noChange else some .published
  | _, _, _ => none

/-- `ReplayLookupRow`: the event joined with its committed version and content object. -/
structure ReplayLookupRow where
  event : SyncEvent
  version : Option SourceVersion
  contentHash : Option String
deriving DecidableEq

/-- `_replay_lookup_base`. -/
def Db.replayRow (db : Db) (event : SyncEvent) : ReplayLookupRow :=
  let version := event.committedVersionId.bind (db.version event.workspaceId event.sourceId)
  let object := version.bind fun v => db.object v.contentObjectId
  ⟨event, version, object.map ContentObject.contentHash⟩

/-- `hydrate_replay_result`; `none` is the integrity failure. -/
def hydrateReplayResult (row : ReplayLookupRow) (command : SourceVersionCommand) :
    Option SourceVersionPublicationResult :=
  if row.event.workspaceId ≠ command.workspaceId ∨ row.event.sourceId ≠ command.sourceId then
    none
  else
    match row.version, row.contentHash,
        classifyReplay row.event.eventType row.event.baseVersionId row.event.committedVersionId with
    | some version, some contentHash, some outcome =>
      if row.event.eventSequence < 1 ∨ version.contentVersion < 1 then none
      else some {
        sourceId := row.event.sourceId
        sourceVersionId := version.sourceVersionId
        contentVersion := version.contentVersion
        eventId := row.event.eventId
        eventSequence := row.event.eventSequence
        contentDigest := contentHash
        outcome }
    | _, _, _ => none

structure PendingRejection where
  reasonCode : Option String
  error : PublicationError
deriving DecidableEq

def invariantRejection : PendingRejection := ⟨none, .concurrencyInvariantFailed⟩

def resolveIdentity (db : Db) (command : SourceVersionCommand)
    (fingerprint : RequestFingerprint) :
    Except PendingRejection (Option SourceVersionPublicationResult) :=
  match db.eventByKey command.workspaceId command.idempotencyKey with
  | some event =>
    if event.eventId ≠ command.eventId ∨ event.requestFingerprint ≠ fingerprint then
      .error ⟨some "idempotency_mismatch", .idempotencyMismatch⟩
    else
      match hydrateReplayResult (db.replayRow event) command with
      | some result => .ok (some result)
      | none => .error invariantRejection
  | none =>
    -- the key lookup missed, so another key or workspace holds the event identity
    if (db.eventById command.eventId).isSome then
      .error ⟨some "event_identity_mismatch", .eventIdentityMismatch⟩
    else .ok none

/-! ## Content objects -/

def contentObjectMetadataMatches (receipt : VerifiedObjectReceipt) (object : ContentObject) :
    Bool :=
  receipt.objectKey = object.objectKey ∧ receipt.sizeBytes = object.byteSize ∧
    receipt.mediaType = object.mediaType

def receiptMatchesCurrentObject (receipt : VerifiedObjectReceipt) (object : ContentObject) :
    Bool :=
  object.contentHash = receipt.contentDigest ∧ contentObjectMetadataMatches receipt object

def contentObjectConflictRejection : PendingRejection :=
  ⟨some "content_object_metadata_conflict", .contentObjectConflict⟩

def contentObjectConflicts (db : Db) (receipt : VerifiedObjectReceipt) : Bool :=
  (db.objectByHash receipt.contentDigest).any fun object =>
    !contentObjectMetadataMatches receipt object

/-- `_insert_content_object` with the comparison that follows it. -/
def insertContentObject (db : Db) (contentObjectId : ContentObjectId)
    (receipt : VerifiedObjectReceipt) :
    Except (Refusal PendingRejection) (Db × ContentObject) := do
  let db ← db.upsertObject {
    contentObjectId
    contentHash := receipt.contentDigest
    objectKey := receipt.objectKey
    byteSize := receipt.sizeBytes
    mediaType := receipt.mediaType }
  match db.objectByHash receipt.contentDigest with
  | none => throw (.rejected invariantRejection)
  | some object =>
    if contentObjectMetadataMatches receipt object then return (db, object)
    else throw (.rejected contentObjectConflictRejection)

/-! ## Writes -/

/-- `SourceCreateIdentities` and `SourceUpdateIdentities`; an update allocates no locator. -/
structure PublicationIdentities where
  contentObjectId : ContentObjectId
  sourceVersionId : SourceVersionId
  sourceLocatorId : SourceLocatorId
deriving DecidableEq

abbrev PublicationWrites :=
  Except (Refusal PendingRejection) (Db × SourceVersionPublicationResult)

/-- `_insert_pending_source`. -/
def pendingSource (command : CreateSourceVersion) : Source where
  sourceId := command.sourceId
  workspaceId := command.workspaceId
  sourceType := command.sourceType
  syncState := .pending
  currentVersionId := none

/-- `_insert_version_one`. -/
def versionOne (command : CreateSourceVersion) (sourceVersionId : SourceVersionId)
    (contentObjectId : ContentObjectId) : SourceVersion where
  sourceVersionId := sourceVersionId
  workspaceId := command.workspaceId
  sourceId := command.sourceId
  contentObjectId := contentObjectId
  contentVersion := 1
  parentVersionId := none

/-- `_activate_source_pointer`: only the pending row with a null pointer is activated. -/
def activateSourcePointer (command : CreateSourceVersion) (sourceVersionId : SourceVersionId)
    (sources : List Source) : Except (Refusal PendingRejection) (List Source) :=
  guardedUpdate sources
    (fun s => s.sourceId = command.sourceId ∧ s.workspaceId = command.workspaceId ∧
      s.syncState = .pending ∧ s.currentVersionId = none)
    (fun s => { s with currentVersionId := some sourceVersionId, syncState := .active })
    invariantRejection

/-- `_insert_create_event`. -/
def createEvent (command : CreateSourceVersion) (fingerprint : RequestFingerprint)
    (eventSequence : Nat) (committedVersionId : SourceVersionId) : SyncEvent where
  eventId := command.eventId
  workspaceId := command.workspaceId
  eventSequence := eventSequence
  sourceId := command.sourceId
  deviceId := command.actor.deviceId
  committedVersionId := some committedVersionId
  baseVersionId := none
  idempotencyKey := command.idempotencyKey
  requestFingerprint := fingerprint
  eventType := .create

/-- `_insert_initial_locator`, for a create that binds one. -/
def insertInitialLocator (command : CreateSourceVersion) (sourceLocatorId : SourceLocatorId)
    (openedSequence : Nat) (db : Db) : Except (Refusal PendingRejection) Db :=
  match command.initialLocator with
  | none => .ok db
  | some normalizedLocator => db.insertLocator {
      sourceLocatorId
      workspaceId := command.workspaceId
      sourceId := command.sourceId
      normalizedLocator
      openedEventId := command.eventId
      openedSequence
      closure := none }

/-- The writes of `_create_transition`; `eventSequence` is the number PostgreSQL gives the
event. -/
def createWrites (command : CreateSourceVersion) (fingerprint : RequestFingerprint)
    (identities : PublicationIdentities) (eventSequence : Nat) (db : Db) : PublicationWrites := do
  let (db, object) ← insertContentObject db identities.contentObjectId command.expectedObject
  let db ← db.insertSource (pendingSource command)
  let db ← db.insertVersion
    (versionOne command identities.sourceVersionId object.contentObjectId)
  let sources ← activateSourcePointer command identities.sourceVersionId db.sources
  let db ← { db with sources }.insertEvent
    (createEvent command fingerprint eventSequence identities.sourceVersionId)
  let db ← insertInitialLocator command identities.sourceLocatorId eventSequence db
  return (db, {
    sourceId := command.sourceId
    sourceVersionId := identities.sourceVersionId
    contentVersion := 1
    eventId := command.eventId
    eventSequence
    contentDigest := command.expectedObject.contentDigest
    outcome := .published })

/-- `_insert_update_event`. -/
def updateEvent (command : UpdateSourceVersion) (fingerprint : RequestFingerprint)
    (eventSequence : Nat) (baseVersionId committedVersionId : SourceVersionId) : SyncEvent where
  eventId := command.eventId
  workspaceId := command.workspaceId
  eventSequence := eventSequence
  sourceId := command.sourceId
  deviceId := command.actor.deviceId
  committedVersionId := some committedVersionId
  baseVersionId := some baseVersionId
  idempotencyKey := command.idempotencyKey
  requestFingerprint := fingerprint
  eventType := .update

/-- The writes of `_no_change_update_transition`. -/
def noChangeWrites (command : UpdateSourceVersion) (fingerprint : RequestFingerprint)
    (current : SourceVersion) (eventSequence : Nat) (db : Db) : PublicationWrites := do
  let db ← db.insertEvent
    (updateEvent command fingerprint eventSequence current.sourceVersionId current.sourceVersionId)
  return (db, {
    sourceId := command.sourceId
    sourceVersionId := current.sourceVersionId
    contentVersion := current.contentVersion
    eventId := command.eventId
    eventSequence
    contentDigest := command.expectedObject.contentDigest
    outcome := .noChange })

/-- `_insert_next_version` with the current version as parent. -/
def nextVersion (command : UpdateSourceVersion) (sourceVersionId : SourceVersionId)
    (contentObjectId : ContentObjectId) (current : SourceVersion) : SourceVersion where
  sourceVersionId := sourceVersionId
  workspaceId := command.workspaceId
  sourceId := command.sourceId
  contentObjectId := contentObjectId
  contentVersion := current.contentVersion + 1
  parentVersionId := some current.sourceVersionId

/-- `_advance_current_pointer`: the pointer must still equal the requested base. -/
def advanceCurrentPointer (command : UpdateSourceVersion) (sourceVersionId : SourceVersionId)
    (sources : List Source) : Except (Refusal PendingRejection) (List Source) :=
  guardedUpdate sources
    (fun s => s.sourceId = command.sourceId ∧ s.workspaceId = command.workspaceId ∧
      s.currentVersionId = some command.baseVersionId)
    (fun s => { s with currentVersionId := some sourceVersionId })
    invariantRejection

/-- The writes of `_changed_update_transition`. -/
def changedWrites (command : UpdateSourceVersion) (fingerprint : RequestFingerprint)
    (identities : PublicationIdentities) (current : SourceVersion) (eventSequence : Nat)
    (db : Db) : PublicationWrites := do
  let (db, object) ← insertContentObject db identities.contentObjectId command.expectedObject
  let db ← db.insertVersion
    (nextVersion command identities.sourceVersionId object.contentObjectId current)
  let sources ← advanceCurrentPointer command identities.sourceVersionId db.sources
  let db ← { db with sources }.insertEvent
    (updateEvent command fingerprint eventSequence command.baseVersionId
      identities.sourceVersionId)
  return (db, {
    sourceId := command.sourceId
    sourceVersionId := identities.sourceVersionId
    contentVersion := current.contentVersion + 1
    eventId := command.eventId
    eventSequence
    contentDigest := command.expectedObject.contentDigest
    outcome := .published })

/-! ## Reads -/

/-- `_select_locked_source`: the row of the requested workspace. -/
def Db.sourceInWorkspace (db : Db) (workspaceId : WorkspaceId) (sourceId : SourceId) :
    Option Source :=
  (db.source sourceId).filter fun s => s.workspaceId = workspaceId

/-- `_select_locked_current_version`: a version joined with its content object. -/
def Db.versionWithObject (db : Db) (workspaceId : WorkspaceId) (sourceId : SourceId)
    (versionId : SourceVersionId) : Option (SourceVersion × ContentObject) :=
  (db.version workspaceId sourceId versionId).bind fun version =>
    (db.object version.contentObjectId).map fun object => (version, object)

/-- `_select_foreign_active_locator_source_id`. -/
def Db.foreignActiveLocator (db : Db) (workspaceId : WorkspaceId) (sourceId : SourceId)
    (locator : NormalizedLocator) : Option SourceLocator :=
  db.locators.find? fun l =>
    l.workspaceId = workspaceId ∧ l.normalizedLocator = locator ∧ l.closure = none ∧
      l.sourceId ≠ sourceId

/-- `_build_authoritative_subject`. -/
def authoritativeSubject (db : Db) (command : SourceVersionCommand) : PolicySubject where
  workspaceId := command.workspaceId
  sourceId := command.sourceId
  normalizedLocator := match command with
    | .create c => c.initialLocator
    | .update _ => none
  sourceType := match command with
    | .create c => some c.sourceType
    | .update c => (db.sourceInWorkspace c.workspaceId c.sourceId).map Source.sourceType
  mediaType := command.receipt.mediaType
  sizeBytes := command.receipt.sizeBytes

/-! ## The transaction -/

/-- One service invocation: the command, the identities allocated for it and the verdict of
the signed policy in force. -/
structure PublicationRequest where
  command : SourceVersionCommand
  identities : PublicationIdentities
  permits : PolicySubject → Bool

def answerPublication (result : Except PublicationError SourceVersionPublicationResult) :
    StoreProgram :=
  .done (.publication result)

/-- `_write_rejection_audit` and the raise that follows it. -/
def auditAndRaise (command : SourceVersionCommand) (onFailure : Failure → StoreProgram)
    (rejection : PendingRejection) : StoreProgram :=
  writeRejectionAudit
    ⟨command.workspaceId, "source.version_publish_rejected", command.sourceId,
      rejection.reasonCode⟩
    onFailure (answerPublication (.error rejection.error))

/-- `_RejectionAbort`: roll back, audit, raise. -/
def abortRejected (command : SourceVersionCommand) (onFailure : Failure → StoreProgram)
    (rejection : PendingRejection) : StoreProgram :=
  .rollback (auditAndRaise command onFailure rejection)

/-- The end of a transition: its writes are committed or refused. -/
def commitPublication (command : SourceVersionCommand) (onFailure : Failure → StoreProgram)
    (writes : Db → PublicationWrites) : StoreProgram :=
  .commitOrAbort writes (fun result => answerPublication (.ok result))
    (fun refusal =>
      match refusal with
      | .constraint => answerPublication (.error .internalError)
      | .rejected rejection => auditAndRaise command onFailure rejection)

def createTransition (env : Environment) (command : CreateSourceVersion)
    (identities : PublicationIdentities) (onFailure : Failure → StoreProgram) : StoreProgram :=
  let abort := abortRejected (.create command) onFailure
  .read fun db =>
  if (db.source command.sourceId).isSome then
    abort ⟨some "source_already_exists", .sourceAlreadyExists⟩
  else .read fun db =>
  if contentObjectConflicts db command.expectedObject then abort contentObjectConflictRejection
  else .draw fun eventSequence => .read fun db =>
  if (command.initialLocator.bind
      (db.foreignActiveLocator command.workspaceId command.sourceId)).isSome then
    abort ⟨some "source_locator_conflict", .locatorConflict⟩
  else
    commitPublication (.create command) onFailure
      (createWrites command (env.fingerprint (.create command)) identities eventSequence)

/-- `_UPDATEABLE_SOURCE_STATES`. -/
def updateableSourceState : SyncState → Bool
  | .active | .storedNotIndexed => true
  | _ => false

/-- `_update_transition` from the locked current version on. -/
def updateFromCurrent (env : Environment) (command : UpdateSourceVersion)
    (identities : PublicationIdentities) (onFailure : Failure → StoreProgram)
    (current : SourceVersion) (object : ContentObject) : StoreProgram :=
  let abort := abortRejected (.update command) onFailure
  let fingerprint := env.fingerprint (.update command)
  if current.contentVersion < 1 then abort invariantRejection
  -- the base is compared before the content: a stale base conflicts even with equal bytes
  else if command.baseVersionId ≠ current.sourceVersionId then
    abort ⟨some "version_conflict",
      .versionConflict current.sourceVersionId current.contentVersion⟩
  else if receiptMatchesCurrentObject command.expectedObject object then
    .draw fun eventSequence =>
    commitPublication (.update command) onFailure
      (noChangeWrites command fingerprint current eventSequence)
  else .read fun db =>
  if contentObjectConflicts db command.expectedObject then abort contentObjectConflictRejection
  else .draw fun eventSequence =>
  commitPublication (.update command) onFailure
    (changedWrites command fingerprint identities current eventSequence)

def updateTransition (env : Environment) (command : UpdateSourceVersion)
    (identities : PublicationIdentities) (onFailure : Failure → StoreProgram) : StoreProgram :=
  let abort := abortRejected (.update command) onFailure
  .selectForUpdate (fun db => db.sourceInWorkspace command.workspaceId command.sourceId)
    (fun _ => .sourceRow command.sourceId)
    (abort ⟨some "source_not_found", .sourceNotFound⟩) fun source =>
  if !updateableSourceState source.syncState then
    abort ⟨some "source_state_invalid", .sourceStateInvalid source.syncState⟩
  else
    match source.currentVersionId with
    | none => abort invariantRejection
    | some pointer =>
      .selectForUpdate
        (fun db => db.versionWithObject command.workspaceId command.sourceId pointer)
        (fun found => .versionRow command.sourceId found.1.sourceVersionId)
        (abort invariantRejection) fun found =>
      .lock (.contentObjectRow found.2.contentObjectId) <|
      updateFromCurrent env command identities onFailure found.1 found.2

def publicationTransition (env : Environment) (request : PublicationRequest)
    (onFailure : Failure → StoreProgram) : StoreProgram :=
  match request.command with
  | .create command => createTransition env command request.identities onFailure
  | .update command => updateTransition env command request.identities onFailure

def runLockedTransition (env : Environment) (request : PublicationRequest)
    (onFailure : Failure → StoreProgram) : StoreProgram :=
  let command := request.command
  let abort := abortRejected command onFailure
  .begin false onFailure <|
  .lock (idempotencyLock env.word command.workspaceId command.idempotencyKey) <|
  -- before the trust boundary there is no audit
  if !env.workspaceActive command.workspaceId then
    .rollback (answerPublication (.error .inputInvalid))
  else if !env.actorValid command.workspaceId command.actor then
    abort ⟨some "actor_invalid", .inputInvalid⟩
  else .read fun db =>
  match resolveIdentity db command (env.fingerprint command) with
  | .error rejection => abort rejection
  | .ok found => .read fun db =>
    .lock (.policyStateRow command.workspaceId) <|
    if !request.permits (authoritativeSubject db command) then
      .rollback (answerPublication (.error .policyDenied))
    else
      match found with
      | some result => .rollback (answerPublication (.ok result))
      | none =>
        .lock (sourceLock env.word command.sourceId) <|
        publicationTransition env request onFailure

/-- `_resolve_committed_once`, as the recovery lookup: what the committed event decides, or
`absent`. -/
def resolveCommittedPublication (env : Environment) (command : SourceVersionCommand)
    (absent : StoreProgram) : StoreProgram :=
  -- a lookup that fails proves nothing
  let unknown : Failure → StoreProgram := fun _ =>
    answerPublication (.error .commitOutcomeUnknown)
  .begin false unknown <|
  if !env.workspaceActive command.workspaceId then
    .rollback (answerPublication (.error .inputInvalid))
  else if !env.actorValid command.workspaceId command.actor then
    .rollback (auditAndRaise command unknown ⟨some "actor_invalid", .inputInvalid⟩)
  else .read fun db =>
  match resolveIdentity db command (env.fingerprint command) with
  | .error rejection => .rollback (auditAndRaise command unknown rejection)
  | .ok (some result) => .rollback (answerPublication (.ok result))
  | .ok none => .rollback absent

/-- `commit_create` and `commit_update`. -/
def commitPublicationRequest (env : Environment) (request : PublicationRequest) : StoreProgram :=
  databaseRetry (fun _ => runLockedTransition env request)
    (some (resolveCommittedPublication env request.command))
    (answerPublication (.error .concurrencyBusy))
    (answerPublication (.error .commitOutcomeUnknown)) maximumAttempts

end PersonalOs.SourceStore
